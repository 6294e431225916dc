import GraphBoard.Proofs.YamlScalars
import GraphBoard.Yaml.Lexer
import Mathlib.Data.List.DropRight

set_option autoImplicit false

/-!
# Cutting flow collections into tokens

On one line and inside brackets the lexer goes from token to token whatever spaces stand between.
It may note where a key could have begun, but nothing has to be a key there. A colon right behind a
scalar puts the key mark in front of the scalar.
-/
namespace GraphBoard.Yaml.Lexer

/-- A lexer in flow collections that are written on one line without blocks around them. Spaces in
front of the rest make no difference. -/
structure At (lx : Lexer) (tokens : List Token) (depth : Nat) (keyAllowed : Bool)
    (rest : List Char) : Prop where
  rest : lx.cur.rest.dropWhile (· == ' ') = rest.dropWhile (· == ' ')
  tokens : lx.tokens = tokens
  depth : lx.outer.length = depth
  keyAllowed : lx.keyAllowed = keyAllowed
  blocks : lx.blocks = []
  optional : ∀ candidate ∈ lx.candidate :: lx.outer, ∀ c ∈ candidate, c.required = false

def Reads (lx : Lexer) (all : List Token) : Prop :=
  ∀ fuel > lx.cur.rest.length, run? fuel lx = some all

def Leads (lx : Lexer) (P : Lexer → Prop) : Prop :=
  ∃ lx', P lx' ∧ ∀ all, Reads lx' all → Reads lx all

theorem At.start (cs : List Char) : At (start cs) [] 0 true cs :=
  ⟨rfl, rfl, rfl, rfl, rfl, by simp [Lexer.start]⟩

theorem At.skip {lx : Lexer} {before : List Token} {depth : Nat} {k : Bool}
    {spaces rest : List Char} (h : At lx before depth k (spaces ++ rest))
    (hspaces : IsSpace spaces) : At lx before depth k rest := by
  refine { h with rest := h.rest.trans ?_ }
  rw [List.dropWhile_append_of_pos fun c hc => by rw [hspaces c hc]; rfl]

section Leading

variable {lx : Lexer} {P Q : Lexer → Prop}

theorem Leads.here (h : P lx) : Leads lx P := ⟨lx, h, fun _ => id⟩

theorem Leads.trans (h : Leads lx P) (hnext : ∀ lx', P lx' → Leads lx' Q) : Leads lx Q := by
  obtain ⟨lx', hlx', hreads⟩ := h
  obtain ⟨lx'', hlx'', hreads'⟩ := hnext lx' hlx'
  exact ⟨lx'', hlx'', fun all hall => hreads all (hreads' all hall)⟩

end Leading

structure OpensToken (c : Char) : Prop where
  printable : IsPrintable c
  not_space : c ≠ ' '
  not_comment : c ≠ '#'

theorem OpensToken.not_tab {c : Char} (h : OpensToken c) : c ≠ '\t' := by
  rintro rfl
  exact absurd h.printable.1 (by decide)

section Filling

variable {lx : Lexer} {spaces rest : List Char}

theorem skipFiller_spaces (hcur : lx.cur.rest = spaces ++ rest) (hspaces : IsSpace spaces)
    (hrest : ∀ c ∈ rest.head?, OpensToken c) (fuel : Nat) :
    skipFiller (fuel + 1) lx = { lx with cur := lx.cur.skip spaces.length } := by
  have hmark : lx.cur.rest.head? ≠ some '\ufeff' := by
    rw [hcur, List.head?_append]
    intro hhead
    obtain hhead | ⟨-, hhead⟩ := Option.or_eq_some_iff.1 hhead
    · exact absurd (hspaces _ (List.mem_of_mem_head? hhead)) (by decide)
    · exact absurd (hrest _ hhead).printable.2 (by decide)
  have hwhile : lx.cur.rest.takeWhile
      (fun c => c == ' ' || (c == '\t' && (lx.inFlow || !lx.keyAllowed))) = spaces := by
    have hstop : rest.takeWhile
        (fun c => c == ' ' || (c == '\t' && (lx.inFlow || !lx.keyAllowed))) = [] := by
      cases rest with
      | nil => rfl
      | cons c rest =>
        have hc := hrest c rfl
        rw [List.takeWhile_cons_of_neg]
        simp [hc.not_space, hc.not_tab]
    rw [hcur, List.takeWhile_append_of_pos, hstop, List.append_nil]
    intro c hc
    rw [hspaces c hc]
    rfl
  have hafter : (lx.cur.skip spaces.length).rest = rest := by
    rw [Cursor.rest_skip, hcur, List.drop_left]
  rw [skipFiller]
  simp only [Cursor.skipWhile, beq_false_of_ne hmark, Bool.and_false, Bool.false_eq_true, if_false,
    hwhile]
  generalize lx.cur.skip spaces.length = cur at hafter
  cases rest with
  | nil => simp [hafter]
  | cons c rest =>
    have hc := hrest c rfl
    simp [hafter, hc.not_comment, hc.printable.not_break]

theorem expire?_candidate (cur : Cursor) {candidate : Option Candidate}
    (h : ∀ c ∈ candidate, c.required = false) :
    ∃ candidate', Candidate.expire? cur candidate = some candidate' ∧
      (∀ c ∈ candidate', c.required = false) ∧
      ∀ c ∈ candidate, c.line = cur.line → cur.index ≤ c.index + 1024 → candidate' = some c := by
  cases candidate with
  | none => exact ⟨none, rfl, nofun, nofun⟩
  | some c =>
    rw [Candidate.expire?]
    have hc := h c rfl
    by_cases hlate : c.line < cur.line ∨ c.index + 1024 < cur.index
    · refine ⟨none, by simp [hlate, hc], nofun, ?_⟩
      rintro _ ⟨⟩ hline hindex
      omega
    · refine ⟨some c, by simp [hlate], h, ?_⟩
      rintro _ ⟨⟩ - -
      rfl

theorem expire?_outer (cur : Cursor) {outer : List (Option Candidate)}
    (h : ∀ candidate ∈ outer, ∀ c ∈ candidate, c.required = false) :
    ∃ outer', outer.mapM (Candidate.expire? cur) = some outer' ∧ outer'.length = outer.length ∧
      ∀ candidate ∈ outer', ∀ c ∈ candidate, c.required = false := by
  induction outer with
  | nil => exact ⟨[], rfl, rfl, nofun⟩
  | cons candidate outer ih =>
    obtain ⟨hfirst, hmore⟩ := List.forall_mem_cons.1 h
    obtain ⟨candidate', hcandidate, hoptional, -⟩ := expire?_candidate cur hfirst
    obtain ⟨outer', houter, hlength, hoptional'⟩ := ih hmore
    refine ⟨candidate' :: outer', ?_, by simp [hlength], ?_⟩
    · rw [List.mapM_cons, hcandidate, houter]
      rfl
    · exact List.forall_mem_cons.2 ⟨hoptional, hoptional'⟩

end Filling

/-- A lexer whose candidate was noted in front of the last token, a scalar that may be a key. -/
structure Pending (lx : Lexer) (number : Nat) (rest : List Char) : Prop where
  rest : lx.cur.rest = rest
  candidate : ∃ c ∈ lx.candidate, c.number = number ∧ c.line = lx.cur.line ∧
    lx.cur.index ≤ c.index + 1024

section Settling

variable {lx : Lexer} {before : List Token} {depth : Nat} {k : Bool} {rest : List Char}

/-- In front of a token nothing happens but that spaces are passed over and candidates forgotten,
not one that was noted just now. -/
theorem At.settle (h : At lx before depth k rest) (hrest : ∀ c ∈ rest.head?, OpensToken c) :
    ∃ lx', At lx' before depth k rest ∧ lx'.cur.rest = rest ∧
      lx'.cur.rest.length ≤ lx.cur.rest.length ∧
      (∀ number, Pending lx number rest → Pending lx' number rest) ∧
      ∀ fuel, (skipFiller (fuel + 1) lx).expire? = some lx' := by
  have hstay : rest.dropWhile (· == ' ') = rest := by
    cases rest with
    | nil => rfl
    | cons c rest => exact List.dropWhile_cons_of_neg (by simp [(hrest c rfl).not_space])
  have hspaces : IsSpace (lx.cur.rest.takeWhile (· == ' ')) :=
    fun c hc => eq_of_beq (List.all_eq_true.1 List.all_takeWhile c hc)
  have hcur : lx.cur.rest = lx.cur.rest.takeWhile (· == ' ') ++ rest := by
    conv_lhs =>
      rw [← List.takeWhile_append_dropWhile (p := (· == ' ')) (l := lx.cur.rest), h.rest, hstay]
  have hskip := skipFiller_spaces hcur hspaces hrest
  generalize lx.cur.rest.takeWhile (· == ' ') = spaces at hcur hskip hspaces
  have hafter : (lx.cur.skip spaces.length).rest = rest := by
    rw [Cursor.rest_skip, hcur, List.drop_left]
  obtain ⟨hcandidate, houter⟩ := List.forall_mem_cons.1 h.optional
  obtain ⟨candidate', hexpire, hoptional, hkept⟩ :=
    expire?_candidate (lx.cur.skip spaces.length) hcandidate
  obtain ⟨outer', hexpire', hlength, hoptional'⟩ :=
    expire?_outer (lx.cur.skip spaces.length) houter
  refine ⟨{ lx with cur := lx.cur.skip spaces.length, candidate := candidate', outer := outer' },
    ⟨by rw [hafter], h.tokens, hlength.trans h.depth, h.keyAllowed, h.blocks,
      List.forall_mem_cons.2 ⟨hoptional, hoptional'⟩⟩, hafter, ?_, ?_, fun fuel => ?_⟩
  · simp
  · rintro number ⟨hrest', c, hc, hnumber, hline, hindex⟩
    have hnone : spaces = [] := by simpa [hrest'] using hcur
    subst hnone
    exact ⟨hafter, c, hkept c hc hline hindex, hnumber, hline, hindex⟩
  · rw [hskip, expire?, hexpire, hexpire']
    rfl

theorem closeBlocks_nil {lx : Lexer} (h : lx.blocks = []) (isOpen : Nat → Bool) :
    lx.closeBlocks isOpen = lx := by
  rw [closeBlocks, h]
  obtain ⟨cur, tokens, blocks, candidate, outer, keyAllowed⟩ := lx
  obtain rfl : blocks = [] := h
  simp

theorem At.dropCandidate (h : At lx before depth k rest) :
    lx.dropCandidate? = some { lx with candidate := none } := by
  have hnone : lx.candidate.any Candidate.required = false := by
    have hcandidate := h.optional lx.candidate List.mem_cons_self
    cases hlx : lx.candidate with
    | none => rfl
    | some c => exact hcandidate c (by rw [hlx]; rfl)
  rw [dropCandidate?, hnone]
  rfl

theorem At.step {c : Char} (h : At lx before depth k (c :: rest)) (hc : OpensToken c)
    {P : Lexer → Prop}
    (hnext : ∀ lx', At lx' before depth k (c :: rest) → lx'.cur.rest = c :: rest →
      (∀ number, Pending lx number (c :: rest) → Pending lx' number (c :: rest)) →
      ∃ lx'', lx'.next? = some lx'' ∧ lx''.cur.rest.length ≤ rest.length ∧ P lx'') :
    Leads lx P := by
  obtain ⟨lx', hat, hcur, hlength, hpending, hsettle⟩ := h.settle (by rintro _ ⟨⟩; exact hc)
  obtain ⟨lx'', hlx'', hshort, hP⟩ := hnext lx' hat hcur hpending
  refine ⟨lx'', hP, fun all hall fuel hfuel => ?_⟩
  rw [hcur, List.length_cons] at hlength
  obtain ⟨fuel, rfl⟩ : ∃ f, fuel = f + 1 := ⟨fuel - 1, by omega⟩
  have hmore : lx'.cur.rest.isEmpty = false := by rw [hcur]; rfl
  rw [run?, hsettle, Option.bind_eq_bind, Option.bind_some, hmore, if_neg Bool.false_ne_true,
    closeBlocks_nil hat.blocks, hlx'']
  exact hall fuel (by omega)

theorem At.finish (h : At lx before depth k []) : Reads lx before.reverse := by
  intro fuel hfuel
  obtain ⟨fuel, rfl⟩ : ∃ f, fuel = f + 1 := ⟨fuel - 1, by omega⟩
  obtain ⟨lx', hat, hcur, -, -, hsettle⟩ := h.settle nofun
  have hend : lx'.cur.rest.isEmpty = true := by rw [hcur]; rfl
  rw [run?, hsettle, Option.bind_eq_bind, Option.bind_some, hend, if_pos rfl,
    closeBlocks_nil hat.blocks, hat.dropCandidate]
  exact congrArg some (congrArg List.reverse hat.tokens)

theorem At.noteCandidate (h : At lx before depth k rest) :
    ∃ lx', lx.noteCandidate? = some lx' ∧ At lx' before depth k rest ∧ lx'.cur = lx.cur ∧
      (k = true → ∃ c ∈ lx'.candidate, c.number = before.length ∧ c.line = lx.cur.line ∧
        c.index = lx.cur.index) := by
  rw [noteCandidate?, h.keyAllowed]
  cases k with
  | false => exact ⟨lx, rfl, h, rfl, nofun⟩
  | true =>
    have hrequired : (!lx.inFlow && lx.blocks.head? == some lx.cur.column) = false := by
      rw [h.blocks]
      exact Bool.and_false _
    rw [if_pos rfl, h.dropCandidate]
    refine ⟨_, rfl, ⟨h.rest, h.tokens, h.depth, h.keyAllowed, h.blocks, ?_⟩, rfl, fun _ =>
      ⟨_, rfl, congrArg List.length h.tokens, rfl, rfl⟩⟩
    refine List.forall_mem_cons.2 ⟨?_, (List.forall_mem_cons.1 h.optional).2⟩
    rintro _ ⟨⟩
    exact hrequired

end Settling

section Marks

variable {lx : Lexer} {before : List Token} {depth : Nat} {k : Bool} {rest : List Char}

theorem not_documentMark {cur : Cursor} {c : Char} (hcur : cur.rest = c :: rest) (hdash : c ≠ '-')
    (hdot : c ≠ '.') : cur.atDocumentMark = false := by
  have hthree : ∀ mark, c ≠ mark → opensWithThree mark (c :: rest) = false := by
    intro mark hmark
    unfold opensWithThree
    split
    · rename_i heq
      rw [← (List.cons.inj heq).1, beq_false_of_ne hmark]
      rfl
    · rfl
  rw [Cursor.atDocumentMark, hcur, hthree '-' hdash, hthree '.' hdot, Bool.or_self, Bool.and_false]

theorem opensToken_of_mem {c : Char} (h : c ∈ ['[', '{', ']', '}', ',', ':', '"']) :
    OpensToken c := by
  have hall : ∀ c ∈ ['[', '{', ']', '}', ',', ':', '"'],
      (0x20 ≤ c.toNat ∧ c.toNat ≤ 0x7E) ∧ c ≠ ' ' ∧ c ≠ '#' := by simp
  obtain ⟨hprintable, hspace, hcomment⟩ := hall c h
  exact ⟨hprintable, hspace, hcomment⟩

theorem At.open {c : Char} {token : Token} (h : At lx before depth k (c :: rest))
    (hmark : (c, token) ∈ [('[', Token.flowSequenceStart), ('{', .flowMappingStart)]) :
    Leads lx (At · (token :: before) (depth + 1) true rest) := by
  have hnext : ∀ lx' : Lexer, lx'.cur.rest = c :: rest → lx'.next? = lx'.openFlow? token := by
    intro lx' hcur
    simp only [List.mem_cons, Prod.mk.injEq, List.not_mem_nil, or_false] at hmark
    obtain ⟨rfl, rfl⟩ | ⟨rfl, rfl⟩ := hmark
    · rw [next?, hcur]
      simp [not_documentMark hcur (by decide) (by decide)]
    · rw [next?, hcur]
      simp [not_documentMark hcur (by decide) (by decide)]
  refine h.step (opensToken_of_mem ?_) fun lx' hat hcur _ => ?_
  · simp only [List.mem_cons, Prod.mk.injEq, List.not_mem_nil, or_false] at hmark
    obtain ⟨rfl, -⟩ | ⟨rfl, -⟩ := hmark <;> decide
  · obtain ⟨lx'', hnote, hat', hcur', -⟩ := hat.noteCandidate
    rw [hnext lx' hcur, openFlow?, hnote]
    refine ⟨_, rfl, by simp [emit, hcur', hcur],
      ⟨by simp [emit, hcur', hcur], ?_, ?_, rfl, hat'.blocks, ?_⟩⟩
    · simp [emit, hat'.tokens]
    · simp [hat'.depth]
    · exact List.forall_mem_cons.2 ⟨nofun, hat'.optional⟩

theorem At.close {c : Char} {token : Token} (h : At lx before (depth + 1) k (c :: rest))
    (hmark : (c, token) ∈ [(']', Token.flowSequenceEnd), ('}', .flowMappingEnd)]) :
    Leads lx (At · (token :: before) depth false rest) := by
  have hnext : ∀ lx' : Lexer, lx'.cur.rest = c :: rest → lx'.next? = lx'.closeFlow? token := by
    intro lx' hcur
    simp only [List.mem_cons, Prod.mk.injEq, List.not_mem_nil, or_false] at hmark
    obtain ⟨rfl, rfl⟩ | ⟨rfl, rfl⟩ := hmark
    · rw [next?, hcur]
      simp [not_documentMark hcur (by decide) (by decide)]
    · rw [next?, hcur]
      simp [not_documentMark hcur (by decide) (by decide)]
  refine h.step (opensToken_of_mem ?_) fun lx' hat hcur _ => ?_
  · simp only [List.mem_cons, Prod.mk.injEq, List.not_mem_nil, or_false] at hmark
    obtain ⟨rfl, -⟩ | ⟨rfl, -⟩ := hmark <;> decide
  · obtain ⟨candidate, outer, houter⟩ := List.exists_cons_of_length_eq_add_one hat.depth
    have hoptional := (List.forall_mem_cons.1 hat.optional).2
    rw [houter] at hoptional
    rw [hnext lx' hcur, closeFlow?, hat.dropCandidate]
    simp only [Option.bind_eq_bind, Option.bind_some, emit, houter]
    refine ⟨_, rfl, by simp [hcur], ⟨by simp [hcur], ?_, ?_, rfl, hat.blocks, hoptional⟩⟩
    · simp [hat.tokens]
    · have hlength := hat.depth
      rw [houter] at hlength
      exact Nat.succ.inj hlength

theorem At.comma (h : At lx before depth k (',' :: rest)) :
    Leads lx (At · (.flowEntry :: before) depth true rest) := by
  refine h.step (opensToken_of_mem (by decide)) fun lx' hat hcur _ => ?_
  have hnext : lx'.next? = lx'.dropCandidate?.bind fun lx =>
      some { lx.emit .flowEntry (lx.cur.skip 1) with keyAllowed := true } := by
    rw [next?, hcur]
    simp [not_documentMark hcur (by decide) (by decide)]
  rw [hnext, hat.dropCandidate]
  refine ⟨_, rfl, by simp [emit, hcur],
    ⟨by simp [emit, hcur], ?_, hat.depth, rfl, hat.blocks, ?_⟩⟩
  · simp [emit, hat.tokens]
  · exact List.forall_mem_cons.2 ⟨nofun, (List.forall_mem_cons.1 hat.optional).2⟩

end Marks

section Scalars

variable {lx : Lexer} {before : List Token} {depth : Nat} {k : Bool} {cs text rest : List Char}

theorem next?_word {c : Char} (hcur : lx.cur.rest = c :: rest) (hc : isWordChar c = true) :
    lx.next? = lx.plainScalar? := by
  have hmarks := isWordChar_not_mark hc
  have hblank := (isWordChar_printable hc).not_blank fun h => hmarks (by rw [h]; decide)
  have hbreak := (isWordChar_printable hc).not_break
  simp only [marks, List.mem_cons, List.not_mem_nil, or_false, not_or] at hmarks
  have hopens : opensPlain lx.inFlow lx.cur.rest = true := by
    rw [hcur, opensPlain]
    simp [hmarks, hblank, hbreak]
  rw [next?, hopens, hcur]
  simp [hmarks, apostrophe, not_documentMark hcur]

theorem next?_quote (hcur : lx.cur.rest = '"' :: rest) :
    lx.next? = lx.nodeToken? fun cur =>
      (quoted? false (cur.rest.length + 1) [] (cur.skip 1)).map fun p =>
        (.scalar false p.1, p.2) := by
  rw [next?, hcur]
  simp [not_documentMark hcur (by decide) (by decide), apostrophe]

theorem At.emit {token : Token} {spaces after : List Char}
    (h : At lx before depth k (text ++ (spaces ++ after)))
    (hcur : lx.cur.rest = text ++ (spaces ++ after)) (hspaces : IsSpace spaces)
    (hnoted : k = true → ∃ c ∈ lx.candidate, c.number = before.length ∧ c.line = lx.cur.line ∧
      c.index = lx.cur.index) :
    let lx' := { lx.emit token (lx.cur.skip (text.length + spaces.length)) with
      keyAllowed := false }
    lx'.cur.rest.length ≤ (spaces ++ after).length ∧
      At lx' (token :: before) depth false (spaces ++ after) ∧
      (k = true → text.length ≤ 1024 → (spaces ++ after).head? ≠ some ' ' →
        Pending lx' before.length (spaces ++ after)) := by
  have hafter : (lx.cur.skip (text.length + spaces.length)).rest = after := by
    rw [Cursor.rest_skip, hcur, ← List.append_assoc, ← List.length_append, List.drop_left]
  refine ⟨?_, ⟨?_, ?_, h.depth, rfl, h.blocks, h.optional⟩, fun hk hlength hhead => ?_⟩
  · change (lx.cur.skip (text.length + spaces.length)).rest.length ≤ _
    rw [hafter, List.length_append]
    omega
  · change (lx.cur.skip (text.length + spaces.length)).rest.dropWhile _ = _
    rw [hafter, List.dropWhile_append_of_pos fun c hc => by rw [hspaces c hc]; rfl]
  · exact congrArg (token :: ·) h.tokens
  · obtain rfl : spaces = [] := by
      cases spaces with
      | nil => rfl
      | cons c spaces => exact absurd (congrArg some (hspaces c List.mem_cons_self)) hhead
    obtain ⟨c, hc, hnumber, hline, hindex⟩ := hnoted hk
    refine ⟨hafter, c, hc, hnumber, hline, ?_⟩
    change lx.cur.index + text.length ≤ _
    omega

theorem At.scalar {plain : Bool} (htext : ScalarText plain cs text)
    (h : At lx before (depth + 1) k (text ++ rest))
    (hends : plain = true → EndsWord (rest.dropWhile (· == ' '))) :
    Leads lx fun lx' => At lx' (.scalar plain cs :: before) (depth + 1) false rest ∧
      (k = true → text.length ≤ 1024 → rest.head? ≠ some ' ' →
        Pending lx' before.length rest) := by
  cases htext with
  | word hne hword =>
    have hspaces : IsSpace (rest.takeWhile (· == ' ')) :=
      fun c hc => eq_of_beq (List.all_eq_true.1 List.all_takeWhile c hc)
    have hends := hends rfl
    rw [← List.takeWhile_append_dropWhile (p := (· == ' ')) (l := rest)] at h ⊢
    generalize rest.takeWhile (· == ' ') = spaces at h hspaces ⊢
    generalize rest.dropWhile (· == ' ') = after at h hends ⊢
    obtain ⟨c, more, rfl⟩ := List.exists_cons_of_ne_nil hne
    have hc := hword c List.mem_cons_self
    refine h.step ⟨isWordChar_printable hc, ?_, ?_⟩ fun lx' hat hcur _ => ?_
    · rintro rfl
      contradiction
    · rintro rfl
      contradiction
    · obtain ⟨lx'', hnote, hat', hcur', hnoted⟩ := hat.noteCandidate
      rw [← hcur'] at hnoted
      have hcur'' : lx''.cur.rest = (c :: more) ++ (spaces ++ after) := by
        rw [hcur', hcur]
        rfl
      have hflow : lx''.inFlow = true := by
        rw [inFlow, List.isEmpty_eq_false_iff.2 (List.ne_nil_of_length_eq_add_one hat'.depth)]
        rfl
      obtain ⟨hshort, hat'', hpending⟩ := hat'.emit hcur'' hspaces hnoted
      refine ⟨_, ?_, hshort.trans (by simp), hat'', hpending⟩
      rw [next?_word hcur hc, plainScalar?, hnote]
      simp only [Option.bind_eq_bind, Option.bind_some, hflow]
      rw [plain?_scalar hword hspaces hends hcur'' (by simp [hcur'']; omega)]
      rfl
  | @quoted cs inner hchars =>
    refine h.step (opensToken_of_mem (by decide)) fun lx' hat hcur _ => ?_
    obtain ⟨lx'', hnote, hat', hcur', hnoted⟩ := hat.noteCandidate
    rw [← hcur'] at hnoted
    have hcur'' : lx''.cur.rest = ('"' :: (inner ++ ['"'])) ++ ([] ++ rest) := by
      rw [hcur', hcur]
      rfl
    obtain ⟨hshort, hat'', hpending⟩ := hat'.emit hcur'' nofun hnoted
    refine ⟨_, ?_, hshort.trans (by simp; omega), hat'', hpending⟩
    have hinner : (lx''.cur.skip 1).rest = inner ++ '"' :: rest := by
      rw [Cursor.rest_skip, hcur'']
      simp
    have hquoted := (hchars.quotedFrom hinner (Nat.succ_ne_zero _)).direct
      (lx''.cur.rest.length + 1) (by rw [Cursor.rest_skip, List.length_drop]; omega) []
    rw [next?_quote hcur, nodeToken?, hnote]
    simp only [Option.bind_eq_bind, Option.bind_some]
    rw [hquoted, Cursor.skip_skip]
    simp [Nat.add_comm]

theorem insertToken_before (token scalar : Token) (before : List Token) :
    insertToken (scalar :: before) before.length token = scalar :: token :: before := by
  simp [insertToken]

theorem At.colon {scalar : Token} (h : At lx (scalar :: before) (depth + 1) k (':' :: rest))
    (hpending : Pending lx before.length (':' :: rest)) :
    Leads lx (At · (.value :: scalar :: .key :: before) (depth + 1) false rest) := by
  refine h.step (opensToken_of_mem (by decide)) fun lx' hat hcur hkept => ?_
  obtain ⟨-, c, hc, hnumber, -, -⟩ := hkept _ hpending
  have hflow : lx'.outer.isEmpty = false :=
    List.isEmpty_eq_false_iff.2 (List.ne_nil_of_length_eq_add_one hat.depth)
  have hnext : lx'.next? = lx'.valueMark? := by
    rw [next?, hcur]
    simp [not_documentMark hcur (by decide) (by decide), inFlow, hflow]
  have htokens : insertToken lx'.tokens c.number .key = scalar :: .key :: before := by
    rw [hat.tokens, hnumber, insertToken_before]
  rw [hnext, valueMark?, hc]
  simp only [openBlock, inFlow, hflow, Bool.not_false, Bool.true_or, if_true, Lexer.emit]
  refine ⟨_, rfl, by simp [hcur], ⟨by simp [hcur], ?_, hat.depth, rfl, hat.blocks, ?_⟩⟩
  · exact congrArg (Token.value :: ·) htokens
  · exact List.forall_mem_cons.2 ⟨nofun, (List.forall_mem_cons.1 hat.optional).2⟩

/-- A scalar with a colon right behind it is a key. -/
theorem At.key {plain : Bool} (htext : ScalarText plain cs text) (hlength : text.length ≤ 1024)
    (h : At lx before (depth + 1) true (text ++ ':' :: rest))
    (hgap : plain = true → rest.head? = some ' ') :
    Leads lx (At · (.value :: .scalar plain cs :: .key :: before) (depth + 1) false rest) := by
  have hends : plain = true → EndsWord ((':' :: rest).dropWhile (· == ' ')) := by
    intro hplain
    obtain ⟨more, rfl⟩ := List.head?_eq_some_iff.1 (hgap hplain)
    exact .key
  exact (h.scalar htext hends).trans fun lx' ⟨hat, hpending⟩ =>
    hat.colon (hpending rfl hlength (by simp))

end Scalars

end GraphBoard.Yaml.Lexer
