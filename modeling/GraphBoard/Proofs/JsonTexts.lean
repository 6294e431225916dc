import GraphBoard.Proofs.JsonStrings
import Mathlib.Data.List.DropRight

set_option autoImplicit false

namespace GraphBoard.Json

open GraphBoard.Text

def Numeral.ofInt (n : Int) : Numeral := ⟨n < 0, n.natAbs, none⟩

def IsBlank (cs : List Char) : Prop := ∀ c ∈ cs, c ∈ [' ', '\t', '\n', '\r']

mutual

/-- The texts of a value that is made without fractions, from its first token to its last. -/
inductive Written : Value → List Char → Prop where
  | null : Written .null "null".toList
  | whole (n : Int) : Written (.number (.ofInt n)) (toString n).toList
  | string {s : String} {text : List Char} : StringText s text → Written (.string (some s)) text
  | nil {blank : List Char} : IsBlank blank → Written (.array []) ('[' :: (blank ++ [']']))
  | array {items : List Value} {inner : List Char} :
      WrittenItems items inner → Written (.array items) ('[' :: (inner ++ [']']))
  | empty {blank : List Char} : IsBlank blank → Written (.object []) ('{' :: (blank ++ ['}']))
  | object {members : List (Option String × Value)} {inner : List Char} :
      WrittenMembers members inner → Written (.object members) ('{' :: (inner ++ ['}']))

inductive WrittenItems : List Value → List Char → Prop where
  | last {item : Value} {before text after : List Char} :
      IsBlank before → Written item text → IsBlank after →
      WrittenItems [item] (before ++ (text ++ after))
  | cons {item : Value} {items : List Value} {before text after more : List Char} :
      IsBlank before → Written item text → IsBlank after → WrittenItems items more →
      WrittenItems (item :: items) (before ++ (text ++ (after ++ ',' :: more)))

inductive WrittenMembers : List (Option String × Value) → List Char → Prop where
  | last {key : String} {value : Value} {before name left right text after : List Char} :
      IsBlank before → StringText key name → IsBlank left → IsBlank right → Written value text →
      IsBlank after →
      WrittenMembers [(some key, value)]
        (before ++ (name ++ (left ++ ':' :: (right ++ (text ++ after)))))
  | cons {key : String} {value : Value} {members : List (Option String × Value)}
      {before name left right text after more : List Char} :
      IsBlank before → StringText key name → IsBlank left → IsBlank right → Written value text →
      IsBlank after → WrittenMembers members more →
      WrittenMembers ((some key, value) :: members)
        (before ++ (name ++ (left ++ ':' :: (right ++ (text ++ (after ++ ',' :: more))))))

end

section Numerals

def decimal (n : Nat) : List UInt8 := Utf8.encode (Nat.toDigits 10 n)

theorem decimal_induction {motive : Nat → List UInt8 → Prop}
    (digit : ∀ d < 10, motive d [UInt8.ofNat (0x30 + d)])
    (append : ∀ n ds, 0 < n → motive n ds → ∀ d < 10,
      motive (10 * n + d) (ds ++ [UInt8.ofNat (0x30 + d)])) (n : Nat) : motive n (decimal n) := by
  have hdigit : ∀ d < 10, decimal d = [UInt8.ofNat (0x30 + d)] := by decide
  induction n using Nat.strongRecOn with
  | ind n ih =>
    by_cases hn : n < 10
    · rw [hdigit n hn]
      exact digit n hn
    · -- The digit behind the others is what is left over ten.
      have hcut : decimal n = decimal (n / 10) ++ [UInt8.ofNat (0x30 + n % 10)] := by
        have hdigits := @Nat.toDigits_append_toDigits 10 (n / 10) (n % 10) (by decide) (by omega)
          (by omega)
        rw [Nat.div_add_mod] at hdigits
        rw [← hdigit _ (Nat.mod_lt n (by decide)), decimal, ← hdigits, Utf8.encode,
          List.flatMap_append]
        rfl
      have happend := append _ _ (by omega) (ih (n / 10) (by omega)) _ (Nat.mod_lt n (by decide))
      rwa [Nat.div_add_mod, ← hcut] at happend

theorem isDigit_ofNat {d : Nat} (h : d < 10) : isDigit (UInt8.ofNat (0x30 + d)) = true := by
  revert d
  decide

theorem isDigit_of_mem_decimal {n : Nat} : ∀ b ∈ decimal n, isDigit b = true := by
  refine decimal_induction (motive := fun _ ds => ∀ b ∈ ds, isDigit b = true)
    (fun d hd => ?_) (fun _ ds _ ih d hd => ?_) n
  · rintro b hb
    rw [List.mem_singleton.1 hb]
    exact isDigit_ofNat hd
  · rintro b hb
    obtain hb | hb := List.mem_append.1 hb
    · exact ih b hb
    · rw [List.mem_singleton.1 hb]
      exact isDigit_ofNat hd

theorem digitsValue_decimal (n : Nat) : digitsValue (decimal n) = n := by
  have hvalue : ∀ d < 10, (UInt8.ofNat (0x30 + d)).toNat - 0x30 = d := by decide
  refine decimal_induction (motive := fun n ds => digitsValue ds = n)
    (fun d hd => ?_) (fun n ds _ ih d hd => ?_) n
  · rw [digitsValue, List.foldl_cons, List.foldl_nil, hvalue d hd, Nat.mul_zero, Nat.zero_add]
  · rw [digitsValue, List.foldl_append, ← digitsValue, ih, List.foldl_cons, List.foldl_nil,
      hvalue d hd]

theorem decimal_eq_cons (n : Nat) :
    ∃ b ds, decimal n = b :: ds ∧ (b = 0x30 → n = 0 ∧ ds = []) := by
  have hzero : ∀ d < 10, UInt8.ofNat (0x30 + d) = 0x30 → d = 0 := by decide
  refine decimal_induction
    (motive := fun n ds => ∃ b ds', ds = b :: ds' ∧ (b = 0x30 → n = 0 ∧ ds' = []))
    (fun d hd => ?_) (fun n ds hn ih d _ => ?_) n
  · exact ⟨_, [], rfl, fun h => ⟨hzero d hd h, rfl⟩⟩
  · obtain ⟨b, ds', rfl, hb⟩ := ih
    exact ⟨b, _, List.cons_append, fun h => absurd (hb h).1 (by omega)⟩

/-- What may follow a numeral without being read as more of it. -/
def EndsNumeral (rest : List UInt8) : Prop :=
  ∀ b ∈ rest.head?, isDigit b = false ∧ b ≠ 0x2E ∧ b ≠ 0x65 ∧ b ≠ 0x45

theorem whole?_decimal (n : Nat) {rest : List UInt8} (h : EndsNumeral rest) :
    whole? (decimal n ++ rest) = some (decimal n, rest) := by
  have hrest : rest.takeWhile isDigit = [] := by
    cases rest with
    | nil => rfl
    | cons b rest => rw [List.takeWhile_cons_of_neg (by simp [(h b rfl).1])]
  have hdigits : (decimal n ++ rest).takeWhile isDigit = decimal n := by
    rw [List.takeWhile_append_of_pos isDigit_of_mem_decimal, hrest, List.append_nil]
  obtain ⟨b, ds, hdecimal, hzero⟩ := decimal_eq_cons n
  -- A zero in front of other digits would be refused.
  have hlead : ((decimal n).isEmpty ||
      ((decimal n).head? == some 0x30 && (decimal n).length != 1)) = false := by
    rw [hdecimal]
    by_cases hb : b = 0x30
    · rw [(hzero hb).2]
      simp
    · simp [hb]
  simp only [whole?, hdigits, hlead, List.drop_left]
  rfl

theorem fraction?_ends {rest : List UInt8} (h : EndsNumeral rest) :
    fraction? rest = some (none, rest) := by
  unfold fraction?
  split
  · exact absurd rfl (h 0x2E rfl).2.1
  · rfl

theorem exponent?_ends {rest : List UInt8} (h : EndsNumeral rest) :
    exponent? rest = some (none, rest) := by
  unfold exponent?
  split
  · rename_i e rest
    obtain ⟨-, -, hlower, hupper⟩ := h e rfl
    rw [if_neg]
    simp [hlower, hupper]
  · rfl

theorem encode_toString (n : Int) : Utf8.encode (toString n).toList =
    if n < 0 then 0x2D :: decimal n.natAbs else decimal n.natAbs := by
  cases n with
  | ofNat n =>
    have hn : ¬ Int.ofNat n < 0 := Int.not_lt.2 (Int.natCast_nonneg n)
    rw [if_neg hn]
    change Utf8.encode n.repr.toList = decimal n
    rw [Nat.toList_repr, decimal]
  | negSucc n =>
    rw [if_pos (Int.negSucc_lt_zero n)]
    change Utf8.encode ("-" ++ (n + 1).repr).toList = 0x2D :: decimal (n + 1)
    rw [String.toList_append, Nat.toList_repr, decimal]
    rfl

theorem numeral?_decimal {bs : List UInt8} {negative : Bool} {n : Nat} {rest : List UInt8}
    (hsign : (bs.head? == some 0x2D) = negative)
    (hbs : (if negative then bs.drop 1 else bs) = decimal n ++ rest) (h : EndsNumeral rest) :
    numeral? bs = some (⟨negative, n, none⟩, rest) := by
  simp only [numeral?, hsign, hbs, whole?_decimal n h, fraction?_ends h, exponent?_ends h,
    Option.bind_eq_bind, Option.bind_some, Option.getD_none, List.append_nil, digitsValue_decimal]
  rfl

theorem numeral?_ofInt (n : Int) {rest : List UInt8} (h : EndsNumeral rest) :
    numeral? (Utf8.encode (toString n).toList ++ rest) = some (.ofInt n, rest) := by
  rw [encode_toString]
  by_cases hn : n < 0
  · rw [if_pos hn, Numeral.ofInt, decide_eq_true hn]
    exact numeral?_decimal rfl rfl h
  · rw [if_neg hn, Numeral.ofInt, decide_eq_false hn]
    refine numeral?_decimal ?_ rfl h
    -- The first byte is a digit, so no sign is read.
    obtain ⟨b, ds, hdecimal, -⟩ := decimal_eq_cons n.natAbs
    have hdigit : isDigit b = true := isDigit_of_mem_decimal b (by rw [hdecimal]; simp)
    rw [hdecimal, List.cons_append, List.head?_cons, beq_eq_false_iff_ne]
    rintro ⟨⟩
    contradiction

end Numerals

section Blanks

theorem skipSpace_blank {blank : List Char} (h : IsBlank blank) (rest : List UInt8) :
    skipSpace (Utf8.encode blank ++ rest) = skipSpace rest := by
  refine List.dropWhile_append_of_pos fun b hb => ?_
  obtain ⟨c, hc, hb⟩ := List.mem_flatMap.1 hb
  have hspace : c = ' ' ∨ c = '\t' ∨ c = '\n' ∨ c = '\r' := by simpa using h c hc
  obtain rfl | rfl | rfl | rfl := hspace <;> cases List.mem_singleton.1 hb <;> rfl

theorem skipSpace_cons {b : UInt8} (h : isSpace b = false) (rest : List UInt8) :
    skipSpace (b :: rest) = b :: rest :=
  List.dropWhile_cons_of_neg (by simp [h])

theorem skipSpace_token {blank : List Char} (h : IsBlank blank) {b : UInt8}
    (hb : isSpace b = false) (rest : List UInt8) :
    skipSpace (Utf8.encode blank ++ b :: rest) = b :: rest := by
  rw [skipSpace_blank h, skipSpace_cons hb]

theorem skipSpace_skipSpace (bs : List UInt8) : skipSpace (skipSpace bs) = skipSpace bs :=
  List.dropWhile_idempotent isSpace bs

theorem value?_skipSpace (fuel : Nat) {bs bs' : List UInt8} (h : skipSpace bs = skipSpace bs') :
    value? fuel bs = value? fuel bs' := by
  cases fuel with
  | zero => rfl
  | succ fuel => simp only [value?, h]

theorem items?_skipSpace (fuel : Nat) {bs bs' : List UInt8} (h : skipSpace bs = skipSpace bs') :
    items? fuel bs = items? fuel bs' := by
  cases fuel with
  | zero => rfl
  | succ fuel => simp only [items?, value?_skipSpace fuel h]

theorem members?_skipSpace (fuel : Nat) {bs bs' : List UInt8} (h : skipSpace bs = skipSpace bs') :
    members? fuel bs = members? fuel bs' := by
  cases fuel with
  | zero => rfl
  | succ fuel => simp only [members?, h]

end Blanks

section FirstBytes

variable (fuel : Nat) (bs : List UInt8)

theorem value?_quote : value? (fuel + 1) (0x22 :: bs) =
    (pieces? bs).map (Prod.map (fun ps => .string (textOf? ps)) id) := by
  rw [value?, skipSpace_cons rfl]
  change (pieces? bs).bind _ = _
  cases pieces? bs <;> rfl

/-- What an opening bracket leads to: the closing one, with nothing in between, or a list. -/
def enclosed {β : Type} (close : UInt8) (empty : Value) (list : β → Value)
    (read : List UInt8 → Option (β × List UInt8)) : Option (Value × List UInt8) :=
  if (skipSpace bs).head? = some close then some (empty, (skipSpace bs).tail)
  else (read bs).map (Prod.map list id)

theorem enclosed_of_close {β : Type} {close : UInt8} {empty : Value} {list : β → Value}
    {read : List UInt8 → Option (β × List UInt8)} {bs rest : List UInt8}
    (h : skipSpace bs = close :: rest) :
    enclosed bs close empty list read = some (empty, rest) := by
  rw [enclosed, h]
  exact if_pos rfl

theorem enclosed_of_open {β : Type} {close : UInt8} {empty : Value} {list : β → Value}
    {read : List UInt8 → Option (β × List UInt8)} {bs : List UInt8}
    (h : ∀ rest, skipSpace bs ≠ close :: rest) :
    enclosed bs close empty list read = (read bs).map (Prod.map list id) :=
  if_neg fun hhead => (List.head?_eq_some_iff.1 hhead).elim h

theorem value?_bracket :
    value? (fuel + 1) (0x5B :: bs) = enclosed bs 0x5D (.array []) .array (items? fuel) := by
  rw [value?, skipSpace_cons rfl]
  dsimp only
  rw [if_neg (by decide), if_pos (by decide)]
  split
  · rename_i hclose
    rw [enclosed_of_close hclose]
  · rename_i hopen
    rw [enclosed_of_open hopen, items?_skipSpace fuel (skipSpace_skipSpace bs)]
    cases items? fuel bs <;> rfl

theorem value?_brace :
    value? (fuel + 1) (0x7B :: bs) = enclosed bs 0x7D (.object []) .object (members? fuel) := by
  rw [value?, skipSpace_cons rfl]
  dsimp only
  rw [if_neg (by decide), if_neg (by decide), if_pos (by decide)]
  split
  · rename_i hclose
    rw [enclosed_of_close hclose]
  · rename_i hopen
    rw [enclosed_of_open hopen, members?_skipSpace fuel (skipSpace_skipSpace bs)]
    cases members? fuel bs <;> rfl

def words : List (UInt8 × String × Value) :=
  [(0x6E, "null", .null), (0x74, "true", .bool true), (0x66, "false", .bool false)]

theorem value?_word {b : UInt8} {word : String} {v : Value} (h : (b, word, v) ∈ words) :
    value? (fuel + 1) (b :: bs) = (word? word (b :: bs)).map (v, ·) := by
  simp only [words, List.mem_cons, List.not_mem_nil, or_false] at h
  obtain ⟨⟨⟩⟩ | ⟨⟨⟩⟩ | ⟨⟨⟩⟩ := h <;> rw [value?, skipSpace_cons rfl] <;> rfl

theorem value?_other {b : UInt8} (hspace : isSpace b = false)
    (h : b ∉ [0x22, 0x5B, 0x7B, 0x6E, 0x74, 0x66]) :
    value? (fuel + 1) (b :: bs) = (numeral? (b :: bs)).map (Prod.map .number id) := by
  simp only [List.mem_cons, List.not_mem_nil, or_false, not_or] at h
  rw [value?, skipSpace_cons hspace]
  simp only [beq_iff_eq, h, if_false]
  cases numeral? (b :: bs) <;> rfl

end FirstBytes

theorem encode_toString_eq_cons (n : Int) : ∃ b bs, Utf8.encode (toString n).toList = b :: bs ∧
    isSpace b = false ∧ b ≠ 0x5D ∧ b ∉ [0x22, 0x5B, 0x7B, 0x6E, 0x74, 0x66] := by
  rw [encode_toString]
  split
  · exact ⟨_, _, rfl, rfl, by decide, by decide⟩
  · obtain ⟨b, bs, hdecimal, -⟩ := decimal_eq_cons n.natAbs
    have hdigit : isDigit b = true := isDigit_of_mem_decimal b (by rw [hdecimal]; simp)
    refine ⟨b, bs, hdecimal, ?_, ?_, ?_⟩
    · rw [Bool.eq_false_iff]
      intro hspace
      simp only [isSpace, Bool.or_eq_true, beq_iff_eq] at hspace
      obtain ((rfl | rfl) | rfl) | rfl := hspace <;> contradiction
    · rintro rfl
      contradiction
    · intro hmem
      simp only [List.mem_cons, List.not_mem_nil, or_false] at hmem
      obtain rfl | rfl | rfl | rfl | rfl | rfl := hmem <;> contradiction

theorem Written.eq_cons {v : Value} {text : List Char} (h : Written v text) :
    ∃ b bs, Utf8.encode text = b :: bs ∧ isSpace b = false ∧ b ≠ 0x5D := by
  cases h with
  | null => exact ⟨_, _, rfl, rfl, by decide⟩
  | whole n =>
    obtain ⟨b, bs, hbs, hspace, hclose, -⟩ := encode_toString_eq_cons n
    exact ⟨b, bs, hbs, hspace, hclose⟩
  | string h =>
    cases h
    exact ⟨_, _, rfl, rfl, by decide⟩
  | nil => exact ⟨_, _, rfl, rfl, by decide⟩
  | array => exact ⟨_, _, rfl, rfl, by decide⟩
  | empty => exact ⟨_, _, rfl, rfl, by decide⟩
  | object => exact ⟨_, _, rfl, rfl, by decide⟩

theorem endsNumeral_blank {blank : List Char} (h : IsBlank blank) {rest : List UInt8}
    (hrest : EndsNumeral rest) : EndsNumeral (Utf8.encode blank ++ rest) := by
  cases blank with
  | nil => exact hrest
  | cons c blank =>
    have hspace : ∀ c ∈ [' ', '\t', '\n', '\r'], ∀ bs, EndsNumeral (Utf8.encodeChar c ++ bs) := by
      intro c hc bs b hb
      simp only [List.mem_cons, List.not_mem_nil, or_false] at hc
      obtain rfl | rfl | rfl | rfl := hc <;> cases hb <;> decide
    rw [Utf8.encode_cons, List.append_assoc]
    exact hspace c (h c List.mem_cons_self) _

section Lists

variable {fuel : Nat} {bs rest rest' more : List UInt8} {v : Value}

theorem items?_last (h : value? fuel bs = some (v, rest'))
    (hclose : skipSpace rest' = 0x5D :: rest) :
    items? (fuel + 1) bs = some ([v], rest) := by
  simp only [items?, h, Option.bind_eq_bind, Option.bind_some, hclose]
  rfl

theorem items?_cons {vs : List Value} (h : value? fuel bs = some (v, rest'))
    (hsep : skipSpace rest' = 0x2C :: more) (hmore : items? fuel more = some (vs, rest)) :
    items? (fuel + 1) bs = some (v :: vs, rest) := by
  simp only [items?, h, Option.bind_eq_bind, Option.bind_some, hsep, hmore]
  rfl

variable {name value : List UInt8} {ps : List Piece}

theorem members?_last (hname : skipSpace bs = 0x22 :: name) (hkey : pieces? name = some (ps, more))
    (hcolon : skipSpace more = 0x3A :: value) (h : value? fuel value = some (v, rest'))
    (hclose : skipSpace rest' = 0x7D :: rest) :
    members? (fuel + 1) bs = some ([(textOf? ps, v)], rest) := by
  simp only [members?, hname, hkey, hcolon, h, Option.bind_eq_bind, Option.bind_some, hclose]
  rfl

theorem members?_cons {members : List (Option String × Value)} {others : List UInt8}
    (hname : skipSpace bs = 0x22 :: name) (hkey : pieces? name = some (ps, more))
    (hcolon : skipSpace more = 0x3A :: value) (h : value? fuel value = some (v, rest'))
    (hsep : skipSpace rest' = 0x2C :: others)
    (hothers : members? fuel others = some (members, rest)) :
    members? (fuel + 1) bs = some ((textOf? ps, v) :: members, rest) := by
  simp only [members?, hname, hkey, hcolon, h, Option.bind_eq_bind, Option.bind_some, hsep, hothers]
  rfl

end Lists

theorem encode_brackets (inner : List Char) (rest : List UInt8) :
    Utf8.encode ('[' :: (inner ++ [']'])) ++ rest =
      0x5B :: (Utf8.encode inner ++ 0x5D :: rest) := by
  rw [Utf8.encode_cons, Utf8.encode_append, List.append_assoc, List.append_assoc]
  rfl

theorem encode_braces (inner : List Char) (rest : List UInt8) :
    Utf8.encode ('{' :: (inner ++ ['}'])) ++ rest =
      0x7B :: (Utf8.encode inner ++ 0x7D :: rest) := by
  rw [Utf8.encode_cons, Utf8.encode_append, List.append_assoc, List.append_assoc]
  rfl

theorem StringText.read_name {key : String} {before name : List Char} (h : StringText key name)
    (hbefore : IsBlank before) (rest : List UInt8) : ∃ bs ps,
    skipSpace (Utf8.encode before ++ (Utf8.encode name ++ rest)) = 0x22 :: bs ∧
      pieces? bs = some (ps, rest) ∧ textOf? ps = some key := by
  obtain ⟨bs, ps, hbs, hread, htext⟩ := h.read rest
  refine ⟨bs, ps, ?_, hread, htext⟩
  rw [hbs, skipSpace_token hbefore rfl]

theorem WrittenItems.isOpen {items : List Value} {inner : List Char} (h : WrittenItems items inner)
    (rest tail : List UInt8) : skipSpace (Utf8.encode inner ++ rest) ≠ 0x5D :: tail := by
  have hfirst : ∀ {item : Value} {before text : List Char} (more : List UInt8), IsBlank before →
      Written item text →
      skipSpace (Utf8.encode before ++ (Utf8.encode text ++ more)) ≠ 0x5D :: tail := by
    -- It is what the first value starts with, and no value starts with a closing bracket.
    intro item before text more hbefore htext hskip
    obtain ⟨b, bs, hb, hspace, hclose⟩ := htext.eq_cons
    rw [hb, List.cons_append, skipSpace_token hbefore hspace] at hskip
    exact hclose (List.cons.inj hskip).1
  cases h with
  | last hbefore htext _ =>
    simp only [Utf8.encode_append, List.append_assoc]
    exact hfirst _ hbefore htext
  | cons hbefore htext _ _ =>
    simp only [Utf8.encode_append, List.append_assoc]
    exact hfirst _ hbefore htext

theorem WrittenMembers.isOpen {members : List (Option String × Value)} {inner : List Char}
    (h : WrittenMembers members inner) (rest tail : List UInt8) :
    skipSpace (Utf8.encode inner ++ rest) ≠ 0x7D :: tail := by
  have hfirst : ∀ {key : String} {before name : List Char} (more : List UInt8), IsBlank before →
      StringText key name →
      skipSpace (Utf8.encode before ++ (Utf8.encode name ++ more)) ≠ 0x7D :: tail := by
    intro key before name more hbefore hname hskip
    obtain ⟨bs, -, hquote, -, -⟩ := hname.read_name hbefore more
    rw [hquote] at hskip
    exact absurd (List.cons.inj hskip).1 (by decide)
  cases h with
  | last hbefore hname =>
    simp only [Utf8.encode_append, List.append_assoc]
    exact hfirst _ hbefore hname
  | cons hbefore hname =>
    simp only [Utf8.encode_append, List.append_assoc]
    exact hfirst _ hbefore hname

theorem endsNumeral_nil : EndsNumeral [] := by rintro b ⟨⟩

theorem endsNumeral_cons {b : UInt8} (h : b ∈ [0x2C, 0x5D, 0x7D]) (rest : List UInt8) :
    EndsNumeral (b :: rest) := by
  rintro c ⟨⟩
  simp only [List.mem_cons, List.not_mem_nil, or_false] at h
  obtain rfl | rfl | rfl := h <;> decide

theorem value?_between {fuel : Nat} {v : Value} {before text after : List Char}
    (hread : ∀ {rest : List UInt8}, EndsNumeral rest →
      value? fuel (Utf8.encode text ++ rest) = some (v, rest))
    (hbefore : IsBlank before) (hafter : IsBlank after) (mark : UInt8)
    (hmark : mark ∈ [0x2C, 0x5D, 0x7D]) (rest : List UInt8) :
    value? fuel (Utf8.encode before ++ (Utf8.encode text ++ (Utf8.encode after ++ mark :: rest))) =
      some (v, Utf8.encode after ++ mark :: rest) := by
  rw [value?_skipSpace fuel (skipSpace_blank hbefore _)]
  exact hread (endsNumeral_blank hafter (endsNumeral_cons hmark rest))

-- The induction is on how the text was written. Each call takes one from the fuel, and the brackets
-- and commas that were passed shorten the text by enough for the fuel to last.
mutual

/-- What is written is read back, and nothing behind it is touched. -/
theorem Written.read {v : Value} {text : List Char} (h : Written v text) {fuel : Nat}
    (hfuel : text.length ≤ fuel) {rest : List UInt8} (hrest : EndsNumeral rest) :
    value? fuel (Utf8.encode text ++ rest) = some (v, rest) := by
  obtain ⟨fuel, rfl⟩ : ∃ f, fuel = f + 1 := by
    obtain ⟨b, bs, hb, -, -⟩ := h.eq_cons
    refine ⟨fuel - 1, ?_⟩
    cases text with
    | nil => contradiction
    | cons c text => simp at hfuel; omega
  match h with
  | .null => exact value?_word fuel _ List.mem_cons_self
  | .whole n =>
    obtain ⟨b, bs, hbs, hspace, -, hother⟩ := encode_toString_eq_cons n
    have hread := numeral?_ofInt n hrest
    rw [hbs, List.cons_append] at hread ⊢
    rw [value?_other fuel _ hspace hother, hread]
    rfl
  | .string hs =>
    obtain ⟨bs, ps, hbs, hread, htext⟩ := hs.read rest
    rw [hbs, value?_quote, hread, Option.map_some, Prod.map, htext]
    rfl
  | .nil hblank =>
    rw [encode_brackets, value?_bracket, enclosed_of_close (skipSpace_token hblank rfl rest)]
  | @Written.array items inner hitems =>
    have hlength : inner.length < fuel := by
      simp at hfuel
      omega
    rw [encode_brackets, value?_bracket, enclosed_of_open (hitems.isOpen _),
      hitems.read hlength rest]
    rfl
  | .empty hblank =>
    rw [encode_braces, value?_brace, enclosed_of_close (skipSpace_token hblank rfl rest)]
  | @Written.object members inner hmembers =>
    have hlength : inner.length < fuel := by
      simp at hfuel
      omega
    rw [encode_braces, value?_brace, enclosed_of_open (hmembers.isOpen _),
      hmembers.read hlength rest]
    rfl

theorem WrittenItems.read {items : List Value} {inner : List Char} (h : WrittenItems items inner)
    {fuel : Nat} (hfuel : inner.length < fuel) (rest : List UInt8) :
    items? fuel (Utf8.encode inner ++ 0x5D :: rest) = some (items, rest) := by
  obtain ⟨fuel, rfl⟩ : ∃ f, fuel = f + 1 := ⟨fuel - 1, by omega⟩
  match h with
  | @WrittenItems.last item before text after hbefore htext hafter =>
    have hlength : text.length ≤ fuel := by
      simp at hfuel
      omega
    have hitem := value?_between (fun hend => htext.read hlength hend) hbefore hafter
      0x5D (by decide) rest
    simp only [Utf8.encode_append, List.append_assoc]
    exact items?_last hitem (skipSpace_token hafter rfl rest)
  | @WrittenItems.cons item items before text after more hbefore htext hafter hmore =>
    have hlength : text.length ≤ fuel ∧ more.length < fuel := by
      simp at hfuel
      omega
    have hitem := value?_between (fun hend => htext.read hlength.1 hend) hbefore hafter
      0x2C (by decide) (Utf8.encode more ++ 0x5D :: rest)
    simp only [Utf8.encode_append, Utf8.encode_cons, List.append_assoc]
    exact items?_cons hitem (skipSpace_token hafter rfl _) (hmore.read hlength.2 rest)

theorem WrittenMembers.read {members : List (Option String × Value)} {inner : List Char}
    (h : WrittenMembers members inner) {fuel : Nat} (hfuel : inner.length < fuel)
    (rest : List UInt8) :
    members? fuel (Utf8.encode inner ++ 0x7D :: rest) = some (members, rest) := by
  obtain ⟨fuel, rfl⟩ : ∃ f, fuel = f + 1 := ⟨fuel - 1, by omega⟩
  match h with
  | @WrittenMembers.last key value before name left right text after hbefore hname hleft hright
      htext hafter =>
    have hlength : text.length ≤ fuel := by
      simp at hfuel
      omega
    have hvalue := value?_between (fun hend => htext.read hlength hend) hright hafter
      0x7D (by decide) rest
    obtain ⟨bs, ps, hquote, hkey, hps⟩ := hname.read_name hbefore (Utf8.encode left ++
      0x3A :: (Utf8.encode right ++ (Utf8.encode text ++ (Utf8.encode after ++ 0x7D :: rest))))
    simp only [Utf8.encode_append, Utf8.encode_cons, List.append_assoc]
    rw [← hps]
    exact members?_last hquote hkey (skipSpace_token hleft rfl _) hvalue
      (skipSpace_token hafter rfl rest)
  | @WrittenMembers.cons key value members before name left right text after more hbefore hname
      hleft hright htext hafter hmore =>
    have hlength : text.length ≤ fuel ∧ more.length < fuel := by
      simp at hfuel
      omega
    have hvalue := value?_between (fun hend => htext.read hlength.1 hend) hright hafter
      0x2C (by decide) (Utf8.encode more ++ 0x7D :: rest)
    obtain ⟨bs, ps, hquote, hkey, hps⟩ := hname.read_name hbefore (Utf8.encode left ++
      0x3A :: (Utf8.encode right ++ (Utf8.encode text ++
        (Utf8.encode after ++ 0x2C :: (Utf8.encode more ++ 0x7D :: rest)))))
    simp only [Utf8.encode_append, Utf8.encode_cons, List.append_assoc]
    rw [← hps]
    exact members?_cons hquote hkey (skipSpace_token hleft rfl _) hvalue
      (skipSpace_token hafter rfl _) (hmore.read hlength.2 rest)

end

theorem length_le_encode (cs : List Char) : cs.length ≤ (Utf8.encode cs).length := by
  induction cs with
  | nil => exact Nat.le_refl 0
  | cons c cs ih =>
    have hpos : 0 < (Utf8.encodeChar c).length := List.length_pos_iff.2 (by simp [Utf8.encodeChar])
    rw [Utf8.encode_cons, List.length_append, List.length_cons]
    omega

theorem Written.parse? {v : Value} {text before after : List Char} (h : Written v text)
    (hbefore : IsBlank before) (hafter : IsBlank after) :
    parse? (Utf8.encode (before ++ (text ++ after))) = some v := by
  have hlength := length_le_encode (before ++ (text ++ after))
  have hfuel : text.length ≤ (Utf8.encode (before ++ (text ++ after))).length + 1 := by
    simp only [List.length_append] at hlength
    omega
  have hend : EndsNumeral (Utf8.encode after) := by
    rw [← List.append_nil (Utf8.encode after)]
    exact endsNumeral_blank hafter endsNumeral_nil
  have hskip : skipSpace (Utf8.encode after) = [] := by
    rw [← List.append_nil (Utf8.encode after), skipSpace_blank hafter]
    rfl
  have hread : value? ((Utf8.encode (before ++ (text ++ after))).length + 1)
      (Utf8.encode (before ++ (text ++ after))) = some (v, Utf8.encode after) := by
    rw [← h.read hfuel hend, ← Utf8.encode_append]
    refine value?_skipSpace _ ?_
    rw [Utf8.encode_append, skipSpace_blank hbefore]
  rw [Json.parse?, hread]
  simp [hskip]

end GraphBoard.Json
