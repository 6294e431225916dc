import GraphBoard.Proofs.JsonTexts

set_option autoImplicit false

namespace GraphBoard.Json

open GraphBoard.Text

section Tokens

variable {bs rest : List UInt8} (more : List UInt8)

theorem skipSpace_append {b : UInt8} (h : skipSpace bs = b :: rest) :
    skipSpace (bs ++ more) = b :: (rest ++ more) := by
  have hne : (bs.dropWhile isSpace).isEmpty = false := by
    change (skipSpace bs).isEmpty = false
    rw [h]
    rfl
  change List.dropWhile isSpace (bs ++ more) = _
  rw [List.dropWhile_append, hne]
  exact congrArg (· ++ more) h

theorem pieces?_append {ps : List Piece} (h : pieces? bs = some (ps, rest)) :
    pieces? (bs ++ more) = some (ps, rest ++ more) := by
  fun_induction pieces? bs generalizing ps rest with
  | case1 => contradiction
  | case2 b tail hquote =>
    obtain rfl := beq_iff_eq.1 hquote
    cases h
    exact pieces?_quote _
  | case3 b _ hback h' i j k tail ih =>
    obtain rfl := beq_iff_eq.1 hback
    obtain ⟨n, hunit, h⟩ := Option.bind_eq_some_iff.1 h
    obtain ⟨⟨qs, rest'⟩, hqs, h⟩ := Option.bind_eq_some_iff.1 h
    cases h
    have hread := pieces?_unit (tail ++ more) hunit
    rw [ih hqs] at hread
    exact hread
  | case4 b _ hback letter tail _ ih =>
    obtain rfl := beq_iff_eq.1 hback
    obtain ⟨c, hescape, h⟩ := Option.bind_eq_some_iff.1 h
    obtain ⟨⟨qs, rest'⟩, hqs, h⟩ := Option.bind_eq_some_iff.1 h
    cases h
    have hread := pieces?_letter (tail ++ more) hescape
    rw [ih hqs] at hread
    exact hread
  | case5 => contradiction
  | case6 => contradiction
  | case7 b tail hquote hback hlow ih =>
    obtain ⟨⟨qs, rest'⟩, hqs, h⟩ := Option.bind_eq_some_iff.1 h
    cases h
    have hread := pieces?_byte (tail ++ more) (fun h => hquote (beq_iff_eq.2 h))
      (fun h => hback (beq_iff_eq.2 h)) hlow
    rw [ih hqs] at hread
    exact hread

theorem word?_append {word : String} (h : word? word bs = some rest) :
    word? word (bs ++ more) = some (rest ++ more) := by
  simp only [word?] at h ⊢
  split at h
  · rename_i hopens
    obtain ⟨tail, rfl⟩ := List.isPrefixOf_iff_prefix.1 hopens
    cases h
    rw [if_pos (List.isPrefixOf_iff_prefix.2 ⟨tail ++ more, (List.append_assoc ..).symm⟩),
      List.drop_left, List.append_assoc, List.drop_left]
  · contradiction

end Tokens

section Numerals

variable {bs rest : List UInt8} (more : List UInt8)

theorem takeWhile_append_of_drop (h : bs.drop (bs.takeWhile isDigit).length ≠ []) :
    (bs ++ more).takeWhile isDigit = bs.takeWhile isDigit ∧
      (bs ++ more).drop (bs.takeWhile isDigit).length =
        bs.drop (bs.takeWhile isDigit).length ++ more := by
  have hlt : (bs.takeWhile isDigit).length < bs.length := by
    rw [ne_eq, List.drop_eq_nil_iff] at h
    omega
  exact ⟨by rw [List.takeWhile_append, if_neg (Nat.ne_of_lt hlt)],
    List.drop_append_of_le_length (Nat.le_of_lt hlt)⟩

theorem whole?_append {ds : List UInt8} (h : whole? bs = some (ds, rest)) (hrest : rest ≠ []) :
    whole? (bs ++ more) = some (ds, rest ++ more) := by
  simp only [whole?] at h ⊢
  split at h
  · contradiction
  · rename_i hdigits
    cases h
    obtain ⟨htake, hdrop⟩ := takeWhile_append_of_drop more hrest
    rw [htake, hdrop, if_neg hdigits]

theorem fraction?_append {fraction : Option (List UInt8)} (h : fraction? bs = some (fraction, rest))
    (hrest : rest ≠ []) : fraction? (bs ++ more) = some (fraction, rest ++ more) := by
  unfold fraction? at h
  split at h
  · rename_i tail
    dsimp only at h
    split at h
    · contradiction
    · rename_i hdigits
      cases h
      obtain ⟨htake, hdrop⟩ := takeWhile_append_of_drop more hrest
      rw [List.cons_append, fraction?]
      simp only [htake, hdrop, if_neg hdigits]
  · rename_i hpoint
    cases h
    cases bs with
    | nil => contradiction
    | cons b tail =>
      rw [List.cons_append, fraction?]
      rintro more' heq
      exact hpoint tail (by rw [(List.cons.inj heq).1])

theorem exponent?_append {exponent : Option Int} (h : exponent? bs = some (exponent, rest))
    (hrest : rest ≠ []) : exponent? (bs ++ more) = some (exponent, rest ++ more) := by
  cases bs with
  | nil =>
    cases h
    contradiction
  | cons e tail =>
    simp only [List.cons_append, exponent?] at h ⊢
    split at h
    · rename_i hletter
      rw [if_pos hletter]
      cases tail with
      | nil => contradiction
      | cons sign tail =>
        -- The digits begin behind a sign or right here.
        simp only [List.cons_append, List.head?_cons, List.drop_succ_cons, List.drop_zero] at h ⊢
        split at h
        all_goals
          rename_i hsign
          split at h
          · contradiction
          · rename_i hdigits
            cases h
            obtain ⟨htake, hdrop⟩ := takeWhile_append_of_drop more hrest
            simp only [hsign, ← List.cons_append, htake, hdrop, hdigits, if_true, if_false,
              Bool.false_eq_true]
    · rename_i hletter
      cases h
      rw [if_neg hletter]
      rfl

theorem numeral?_append {n : Numeral} (h : numeral? bs = some (n, rest)) (hrest : rest ≠ []) :
    numeral? (bs ++ more) = some (n, rest ++ more) := by
  obtain ⟨⟨whole, behindWhole⟩, hwhole, h⟩ := Option.bind_eq_some_iff.1 h
  obtain ⟨⟨fraction, behindFraction⟩, hfraction, h⟩ := Option.bind_eq_some_iff.1 h
  obtain ⟨⟨exponent, behind⟩, hexponent, h⟩ := Option.bind_eq_some_iff.1 h
  cases h
  -- Something is left behind the last part, so behind the parts in front of it too.
  have hbehindFraction : behindFraction ≠ [] := by
    rintro rfl
    cases hexponent
    contradiction
  have hbehindWhole : behindWhole ≠ [] := by
    rintro rfl
    cases hfraction
    contradiction
  cases bs with
  | nil => contradiction
  | cons b tail =>
    have hsign : (if ((b :: (tail ++ more)).head? == some 0x2D) = true then
        (b :: (tail ++ more)).drop 1 else b :: (tail ++ more)) =
        (if ((b :: tail).head? == some 0x2D) = true then (b :: tail).drop 1 else b :: tail) ++
          more := by
      rw [List.head?_cons, List.head?_cons]
      split <;> rfl
    simp only [numeral?, List.cons_append, hsign, whole?_append more hwhole hbehindWhole,
      fraction?_append more hfraction hbehindFraction, exponent?_append more hexponent hrest,
      Option.bind_eq_bind, Option.bind_some]
    rfl

end Numerals

section Lists

variable {fuel : Nat} {bs rest : List UInt8}

theorem items?_ok {items : List Value} (h : items? (fuel + 1) bs = some (items, rest)) :
    ∃ item behind, value? fuel bs = some (item, behind) ∧
      ((skipSpace behind = 0x5D :: rest ∧ items = [item]) ∨
        ∃ others more, skipSpace behind = 0x2C :: more ∧ items? fuel more = some (others, rest) ∧
          items = item :: others) := by
  obtain ⟨⟨item, behind⟩, hitem, h⟩ := Option.bind_eq_some_iff.1 h
  refine ⟨item, behind, hitem, ?_⟩
  dsimp only at h
  split at h
  · rename_i more hsep
    obtain ⟨⟨others, rest'⟩, hothers, h⟩ := Option.bind_eq_some_iff.1 h
    cases h
    exact .inr ⟨others, more, hsep, hothers, rfl⟩
  · rename_i hclose
    cases h
    exact .inl ⟨hclose, rfl⟩
  · contradiction

theorem members?_ok {members : List (Option String × Value)}
    (h : members? (fuel + 1) bs = some (members, rest)) :
    ∃ name ps behindName value v behind, skipSpace bs = 0x22 :: name ∧
      pieces? name = some (ps, behindName) ∧ skipSpace behindName = 0x3A :: value ∧
      value? fuel value = some (v, behind) ∧
      ((skipSpace behind = 0x7D :: rest ∧ members = [(textOf? ps, v)]) ∨
        ∃ others more, skipSpace behind = 0x2C :: more ∧
          members? fuel more = some (others, rest) ∧ members = (textOf? ps, v) :: others) := by
  rw [members?] at h
  split at h
  · rename_i name hquote
    obtain ⟨⟨ps, behindName⟩, hname, h⟩ := Option.bind_eq_some_iff.1 h
    dsimp only at h
    split at h
    · rename_i value hcolon
      obtain ⟨⟨v, behind⟩, hvalue, h⟩ := Option.bind_eq_some_iff.1 h
      refine ⟨name, ps, behindName, value, v, behind, hquote, hname, hcolon, hvalue, ?_⟩
      dsimp only at h
      split at h
      · rename_i more hsep
        obtain ⟨⟨others, rest'⟩, hothers, h⟩ := Option.bind_eq_some_iff.1 h
        cases h
        exact .inr ⟨others, more, hsep, hothers, rfl⟩
      · rename_i hclose
        cases h
        exact .inl ⟨hclose, rfl⟩
      · contradiction
    · contradiction
  · contradiction

/-- Whether more fuel and more bytes change nothing about what is read with so much fuel. Only a
number goes on. -/
structure Extends (fuel : Nat) : Prop where
  value {bs rest : List UInt8} {v : Value} : value? fuel bs = some (v, rest) →
    (∀ n, v = .number n → rest ≠ []) → ∀ {fuel' : Nat}, fuel ≤ fuel' → ∀ more : List UInt8,
      value? fuel' (bs ++ more) = some (v, rest ++ more)
  items {bs rest : List UInt8} {vs : List Value} : items? fuel bs = some (vs, rest) →
    ∀ {fuel' : Nat}, fuel ≤ fuel' → ∀ more : List UInt8,
      items? fuel' (bs ++ more) = some (vs, rest ++ more)
  members {bs rest : List UInt8} {ms : List (Option String × Value)} :
    members? fuel bs = some (ms, rest) → ∀ {fuel' : Nat}, fuel ≤ fuel' → ∀ more : List UInt8,
      members? fuel' (bs ++ more) = some (ms, rest ++ more)

theorem items?_ne_nil {items : List Value} (h : items? fuel bs = some (items, rest)) :
    skipSpace bs ≠ [] := by
  intro hskip
  rw [@items?_skipSpace fuel bs [] hskip] at h
  obtain _ | _ | fuel := fuel <;> contradiction

theorem members?_ne_nil {members : List (Option String × Value)}
    (h : members? fuel bs = some (members, rest)) : skipSpace bs ≠ [] := by
  intro hskip
  rw [@members?_skipSpace fuel bs [] hskip] at h
  obtain _ | fuel := fuel <;> contradiction

theorem enclosed_append {β : Type} {close : UInt8} {empty : Value} {list : β → Value}
    {read read' : List UInt8 → Option (β × List UInt8)} {more : List UInt8}
    (hread : ∀ {x : β} {rest : List UInt8}, read bs = some (x, rest) →
      skipSpace bs ≠ [] ∧ read' (bs ++ more) = some (x, rest ++ more)) {v : Value}
    (h : enclosed bs close empty list read = some (v, rest)) :
    enclosed (bs ++ more) close empty list read' = some (v, rest ++ more) := by
  by_cases hclose : ∃ tail, skipSpace bs = close :: tail
  · obtain ⟨tail, htail⟩ := hclose
    rw [enclosed_of_close htail] at h
    cases h
    exact enclosed_of_close (skipSpace_append more htail)
  · rw [enclosed_of_open (not_exists.1 hclose)] at h
    obtain ⟨⟨x, rest'⟩, hx, heq⟩ := Option.map_eq_some_iff.1 h
    cases heq
    obtain ⟨hne, hx'⟩ := hread hx
    obtain ⟨b, tail, htail⟩ := List.exists_cons_of_ne_nil hne
    have hopen : ∀ tail', skipSpace (bs ++ more) ≠ close :: tail' := by
      intro tail' hskip
      rw [skipSpace_append more htail] at hskip
      obtain ⟨rfl, -⟩ := List.cons.inj hskip
      exact hclose ⟨tail, htail⟩
    rw [enclosed_of_open hopen, hx']
    rfl

theorem ne_nil_of_skipSpace {b : UInt8} (h : skipSpace bs = b :: rest) : bs ≠ [] := by
  rintro rfl
  contradiction

variable {fuel' : Nat} (ih : Extends fuel) (hle : fuel ≤ fuel') (more : List UInt8)

include ih hle

theorem items?_extend {items : List Value} (h : items? (fuel + 1) bs = some (items, rest)) :
    items? (fuel' + 1) (bs ++ more) = some (items, rest ++ more) := by
  obtain ⟨item, behind, hitem, ⟨hclose, rfl⟩ | ⟨others, more', hsep, hothers, rfl⟩⟩ := items?_ok h
  · have hread := ih.value hitem (fun _ _ => ne_nil_of_skipSpace hclose) hle more
    exact items?_last hread (skipSpace_append more hclose)
  · have hread := ih.value hitem (fun _ _ => ne_nil_of_skipSpace hsep) hle more
    exact items?_cons hread (skipSpace_append more hsep) (ih.items hothers hle more)

theorem members?_extend {members : List (Option String × Value)}
    (h : members? (fuel + 1) bs = some (members, rest)) :
    members? (fuel' + 1) (bs ++ more) = some (members, rest ++ more) := by
  obtain ⟨name, ps, behindName, value, v, behind, hquote, hname, hcolon, hvalue, hend⟩ :=
    members?_ok h
  have hquote' := skipSpace_append more hquote
  have hname' := pieces?_append more hname
  have hcolon' := skipSpace_append more hcolon
  obtain ⟨hclose, rfl⟩ | ⟨others, more', hsep, hothers, rfl⟩ := hend
  · have hread := ih.value hvalue (fun _ _ => ne_nil_of_skipSpace hclose) hle more
    exact members?_last hquote' hname' hcolon' hread (skipSpace_append more hclose)
  · have hread := ih.value hvalue (fun _ _ => ne_nil_of_skipSpace hsep) hle more
    exact members?_cons hquote' hname' hcolon' hread (skipSpace_append more hsep)
      (ih.members hothers hle more)

theorem value?_extend {v : Value} (h : value? (fuel + 1) bs = some (v, rest))
    (hnumber : ∀ n, v = .number n → rest ≠ []) :
    value? (fuel' + 1) (bs ++ more) = some (v, rest ++ more) := by
  cases hskip : skipSpace bs with
  | nil =>
    rw [value?, hskip] at h
    contradiction
  | cons b tail =>
    have hspace : isSpace b = false := by
      have hhead := List.head?_dropWhile_not isSpace bs
      have hdrop : bs.dropWhile isSpace = b :: tail := hskip
      rw [hdrop] at hhead
      exact hhead
    have htail : skipSpace (b :: tail) = b :: tail := skipSpace_cons hspace tail
    have htail' : skipSpace (b :: (tail ++ more)) = b :: (tail ++ more) := skipSpace_cons hspace _
    -- Blanks are dropped on both sides; then the first byte says what stands there.
    rw [value?_skipSpace _ (hskip.trans htail.symm)] at h
    rw [value?_skipSpace _ ((skipSpace_append more hskip).trans htail'.symm)]
    by_cases hquote : b = 0x22
    · subst hquote
      rw [value?_quote] at h ⊢
      obtain ⟨⟨ps, rest'⟩, hps, heq⟩ := Option.map_eq_some_iff.1 h
      cases heq
      rw [pieces?_append more hps]
      rfl
    by_cases hbracket : b = 0x5B
    · subst hbracket
      rw [value?_bracket] at h ⊢
      exact enclosed_append (fun hitems => ⟨items?_ne_nil hitems, ih.items hitems hle more⟩) h
    by_cases hbrace : b = 0x7B
    · subst hbrace
      rw [value?_brace] at h ⊢
      exact enclosed_append
        (fun hmembers => ⟨members?_ne_nil hmembers, ih.members hmembers hle more⟩) h
    by_cases hletter : ∃ word w, (b, word, w) ∈ words
    · obtain ⟨word, w, hmem⟩ := hletter
      rw [value?_word _ _ hmem] at h ⊢
      obtain ⟨rest', hword, heq⟩ := Option.map_eq_some_iff.1 h
      cases heq
      rw [← List.cons_append, word?_append more hword]
      rfl
    have hother : b ∉ [0x22, 0x5B, 0x7B, 0x6E, 0x74, 0x66] := by
      simp only [List.mem_cons, List.not_mem_nil, or_false, not_or]
      refine ⟨hquote, hbracket, hbrace, ?_, ?_, ?_⟩
      · rintro rfl
        exact hletter ⟨"null", .null, by simp [words]⟩
      · rintro rfl
        exact hletter ⟨"true", .bool true, by simp [words]⟩
      · rintro rfl
        exact hletter ⟨"false", .bool false, by simp [words]⟩
    rw [value?_other _ _ hspace hother] at h ⊢
    obtain ⟨⟨n, rest'⟩, hnumeral, heq⟩ := Option.map_eq_some_iff.1 h
    cases heq
    rw [← List.cons_append, numeral?_append more hnumeral (hnumber n rfl)]
    rfl

end Lists

/-- More fuel and more bytes never change what was read but for a number at the end. -/
theorem extends_all (fuel : Nat) : Extends fuel := by
  induction fuel with
  | zero => exact ⟨nofun, nofun, nofun⟩
  | succ fuel ih =>
    refine ⟨fun h hnumber fuel' hle more => ?_, fun h fuel' hle more => ?_,
      fun h fuel' hle more => ?_⟩
    all_goals obtain ⟨fuel', rfl⟩ : ∃ f, fuel' = f + 1 := ⟨fuel' - 1, by omega⟩
    · exact value?_extend ih (Nat.le_of_succ_le_succ hle) more h hnumber
    · exact items?_extend ih (Nat.le_of_succ_le_succ hle) more h
    · exact members?_extend ih (Nat.le_of_succ_le_succ hle) more h

/-- A text that is a value up to its last byte has no other value but a number in front of it. -/
theorem number_of_cut {bs more : List UInt8} {fuel : Nat} {v w : Value}
    (h : value? fuel (bs ++ more) = some (v, [])) (hfuel : bs.length + 1 ≤ fuel) (hne : more ≠ [])
    (hcut : parse? bs = some w) : ∃ n, w = .number n := by
  obtain ⟨⟨w', rest⟩, hread, hclose⟩ := Option.bind_eq_some_iff.1 hcut
  dsimp only at hclose
  split at hclose
  · cases hclose
    by_contra hnumber
    -- With the missing bytes the same value is read, and they are left over.
    have hmore := (extends_all _).value hread (fun n hn => absurd ⟨n, hn⟩ hnumber) hfuel more
    rw [h] at hmore
    obtain ⟨-, hnil⟩ := Prod.mk.inj (Option.some.inj hmore)
    exact hne (List.append_eq_nil_iff.1 hnil.symm).2
  · contradiction

end GraphBoard.Json
