import GraphBoard.Proofs.YamlTokens
import GraphBoard.Yaml.Document

set_option autoImplicit false

namespace GraphBoard.Yaml

def bare : Properties := ⟨none, none⟩

mutual

/-- The texts of a node without properties, from its first token to its last. -/
inductive Written : Node → List Char → Prop where
  | scalar {plain : Bool} {cs text : List Char} :
      ScalarText plain cs text → Written (.scalar bare plain cs) text
  | sequence {items : List Node} {text : List Char} :
      WrittenItems items text → Written (.sequence bare items) ('[' :: text)
  | mapping {entries : List (Node × Node)} {text : List Char} :
      WrittenEntries entries text → Written (.mapping bare entries) ('{' :: text)

inductive WrittenItems : List Node → List Char → Prop where
  | nil {spaces : List Char} : IsSpace spaces → WrittenItems [] (spaces ++ [']'])
  | last {item : Node} {before text after : List Char} :
      IsSpace before → Written item text → IsSpace after →
      WrittenItems [item] (before ++ (text ++ (after ++ [']'])))
  | cons {item next : Node} {items : List Node} {before text after more : List Char} :
      IsSpace before → Written item text → IsSpace after → WrittenItems (next :: items) more →
      WrittenItems (item :: next :: items) (before ++ (text ++ (after ++ ',' :: more)))

inductive WrittenEntry : Node × Node → List Char → Prop where
  | entry {plain : Bool} {cs key gap text : List Char} {value : Node} :
      ScalarText plain cs key → key.length ≤ 1024 → IsSpace gap → (plain = true → gap ≠ []) →
      Written value text →
      WrittenEntry (.scalar bare plain cs, value) (key ++ ':' :: (gap ++ text))

inductive WrittenEntries : List (Node × Node) → List Char → Prop where
  | nil {spaces : List Char} : IsSpace spaces → WrittenEntries [] (spaces ++ ['}'])
  | last {entry : Node × Node} {before text after : List Char} :
      IsSpace before → WrittenEntry entry text → IsSpace after →
      WrittenEntries [entry] (before ++ (text ++ (after ++ ['}'])))
  | cons {entry next : Node × Node} {entries : List (Node × Node)}
      {before text after more : List Char} :
      IsSpace before → WrittenEntry entry text → IsSpace after →
      WrittenEntries (next :: entries) more →
      WrittenEntries (entry :: next :: entries) (before ++ (text ++ (after ++ ',' :: more)))

end

mutual

def Node.tokens : Node → List Token
  | .scalar _ plain text => [.scalar plain text]
  | .sequence _ items => .flowSequenceStart :: itemTokens items
  | .mapping _ entries => .flowMappingStart :: entryTokens entries
  | .reference _ => []

def itemTokens : List Node → List Token
  | [] => [.flowSequenceEnd]
  | [item] => item.tokens ++ [.flowSequenceEnd]
  | item :: next :: items => item.tokens ++ .flowEntry :: itemTokens (next :: items)

def pairTokens : Node × Node → List Token
  | (key, value) => .key :: (key.tokens ++ .value :: value.tokens)

def entryTokens : List (Node × Node) → List Token
  | [] => [.flowMappingEnd]
  | [entry] => pairTokens entry ++ [.flowMappingEnd]
  | entry :: next :: entries => pairTokens entry ++ .flowEntry :: entryTokens (next :: entries)

end

section Lexing

open Lexer

theorem endsWord_between {after : List Char} (hafter : IsSpace after) {mark : Char}
    (hmark : isFlowMark mark = true) (rest : List Char) :
    EndsWord ((after ++ mark :: rest).dropWhile (· == ' ')) := by
  have hspace : mark ≠ ' ' := by
    rintro rfl
    contradiction
  rw [List.dropWhile_append_of_pos fun c hc => by rw [hafter c hc]; rfl,
    List.dropWhile_cons_of_neg (by simp [hspace])]
  exact .mark hmark

-- The induction is on how the text was written; every mark in it is one step of the lexer.
mutual

/-- What is written is cut into its tokens, and what follows is left. -/
theorem Written.leads {node : Node} {text : List Char} (h : Written node text) {lx : Lexer}
    {before : List Token} {depth : Nat} {k : Bool} {rest : List Char}
    (hat : At lx before (depth + 1) k (text ++ rest))
    (hrest : EndsWord (rest.dropWhile (· == ' '))) :
    Leads lx (At · (node.tokens.reverse ++ before) (depth + 1) false rest) := by
  match h with
  | .scalar htext => exact (hat.scalar htext fun _ => hrest).trans fun _ hscalar => .here hscalar.1
  | .sequence hitems =>
    refine (hat.open (.head _)).trans fun lx' hopen => ?_
    rw [Node.tokens, List.reverse_cons, List.append_assoc]
    exact hitems.leads hopen
  | .mapping hentries =>
    refine (hat.open (.tail _ (.head _))).trans fun lx' hopen => ?_
    rw [Node.tokens, List.reverse_cons, List.append_assoc]
    exact hentries.leads hopen

theorem WrittenItems.leads {items : List Node} {text : List Char} (h : WrittenItems items text)
    {lx : Lexer} {before : List Token} {depth : Nat} {rest : List Char}
    (hat : At lx before (depth + 1) true (text ++ rest)) :
    Leads lx (At · ((itemTokens items).reverse ++ before) depth false rest) := by
  match h with
  | .nil hspaces =>
    rw [List.append_assoc] at hat
    exact (hat.skip hspaces).close (.head _)
  | .last hbefore hitem hafter =>
    simp only [List.append_assoc, List.cons_append, List.nil_append] at hat
    refine (hitem.leads (hat.skip hbefore) (endsWord_between hafter rfl _)).trans
      fun lx' hread => ?_
    rw [itemTokens, List.reverse_append, List.append_assoc]
    exact (hread.skip hafter).close (.head _)
  | .cons hbefore hitem hafter hmore =>
    simp only [List.append_assoc, List.cons_append] at hat
    refine (hitem.leads (hat.skip hbefore) (endsWord_between hafter rfl _)).trans
      fun lx' hread => ?_
    refine (hread.skip hafter).comma.trans fun lx'' hcomma => ?_
    rw [itemTokens, List.reverse_append, List.reverse_cons, List.append_assoc, List.append_assoc]
    exact hmore.leads hcomma

theorem WrittenEntry.leads {entry : Node × Node} {text : List Char} (h : WrittenEntry entry text)
    {lx : Lexer} {before : List Token} {depth : Nat} {rest : List Char}
    (hat : At lx before (depth + 1) true (text ++ rest))
    (hrest : EndsWord (rest.dropWhile (· == ' '))) :
    Leads lx (At · ((pairTokens entry).reverse ++ before) (depth + 1) false rest) := by
  match h with
  | @WrittenEntry.entry plain cs key gap text value hkey hlength hgap hword hvalue =>
    simp only [List.append_assoc, List.cons_append] at hat
    have hspace : plain = true → (gap ++ (text ++ rest)).head? = some ' ' := by
      intro hplain
      obtain ⟨c, gap, rfl⟩ := List.exists_cons_of_ne_nil (hword hplain)
      rw [hgap c List.mem_cons_self]
      rfl
    refine (hat.key hkey hlength hspace).trans fun lx' hread => ?_
    have htokens : (pairTokens (.scalar bare plain cs, value)).reverse ++ before =
        value.tokens.reverse ++ (.value :: .scalar plain cs :: .key :: before) := by
      simp [pairTokens, Node.tokens]
    rw [htokens]
    exact hvalue.leads (hread.skip hgap) hrest

theorem WrittenEntries.leads {entries : List (Node × Node)} {text : List Char}
    (h : WrittenEntries entries text) {lx : Lexer} {before : List Token} {depth : Nat}
    {rest : List Char} (hat : At lx before (depth + 1) true (text ++ rest)) :
    Leads lx (At · ((entryTokens entries).reverse ++ before) depth false rest) := by
  match h with
  | .nil hspaces =>
    rw [List.append_assoc] at hat
    exact (hat.skip hspaces).close (.tail _ (.head _))
  | .last hbefore hentry hafter =>
    simp only [List.append_assoc, List.cons_append, List.nil_append] at hat
    refine (hentry.leads (hat.skip hbefore) (endsWord_between hafter rfl _)).trans
      fun lx' hread => ?_
    rw [entryTokens, List.reverse_append, List.append_assoc]
    exact (hread.skip hafter).close (.tail _ (.head _))
  | .cons hbefore hentry hafter hmore =>
    simp only [List.append_assoc, List.cons_append] at hat
    refine (hentry.leads (hat.skip hbefore) (endsWord_between hafter rfl _)).trans
      fun lx' hread => ?_
    refine (hread.skip hafter).comma.trans fun lx'' hcomma => ?_
    rw [entryTokens, List.reverse_append, List.reverse_cons, List.append_assoc, List.append_assoc]
    exact hmore.leads hcomma

end

end Lexing

section Parsing

variable {handles : List (List Char × List Char)} {anchors : List (List Char × Nat)} {fuel : Nat}
  {rest ts : List Token}

inductive OpensNode : Token → Prop where
  | scalar (plain : Bool) (text : List Char) : OpensNode (.scalar plain text)
  | sequence : OpensNode .flowSequenceStart
  | mapping : OpensNode .flowMappingStart

theorem node?_scalar (place : Place) (plain : Bool) (text : List Char) :
    node? place (fuel + 1) ⟨.scalar plain text :: rest, handles, anchors⟩ =
      some (.scalar bare plain text, ⟨rest, handles, anchors⟩) := by
  rw [node?]
  rfl

theorem node?_sequence (place : Place) :
    node? place (fuel + 1) ⟨.flowSequenceStart :: ts, handles, anchors⟩ =
      (flowItems? true fuel ⟨ts, handles, anchors⟩).map fun p => (.sequence bare p.1, p.2) := by
  rw [node?]
  change (flowItems? true fuel ⟨ts, handles, anchors⟩).bind _ = _
  cases flowItems? true fuel ⟨ts, handles, anchors⟩ <;> rfl

theorem node?_mapping (place : Place) :
    node? place (fuel + 1) ⟨.flowMappingStart :: ts, handles, anchors⟩ =
      (flowEntries? true fuel ⟨ts, handles, anchors⟩).map fun p => (.mapping bare p.1, p.2) := by
  rw [node?]
  change (flowEntries? true fuel ⟨ts, handles, anchors⟩).bind _ = _
  cases flowEntries? true fuel ⟨ts, handles, anchors⟩ <;> rfl

theorem flowItems?_end (first : Bool) :
    flowItems? first (fuel + 1) ⟨.flowSequenceEnd :: rest, handles, anchors⟩ =
      some ([], ⟨rest, handles, anchors⟩) := by
  rw [flowItems?]
  rfl

theorem flowItems?_comma {token : Token} (h : OpensNode token) :
    flowItems? false (fuel + 1) ⟨.flowEntry :: token :: ts, handles, anchors⟩ =
      flowItems? true (fuel + 1) ⟨token :: ts, handles, anchors⟩ := by
  cases h <;> rw [flowItems?, flowItems?] <;> rfl

theorem flowItems?_node {token : Token} (h : OpensNode token) :
    flowItems? true (fuel + 1) ⟨token :: ts, handles, anchors⟩ =
      (node? flowPlace fuel ⟨token :: ts, handles, anchors⟩).bind fun p =>
        (flowItems? false fuel p.2).map fun q => (p.1 :: q.1, q.2) := by
  have hread : flowItems? true (fuel + 1) ⟨token :: ts, handles, anchors⟩ =
      (node? flowPlace fuel ⟨token :: ts, handles, anchors⟩).bind fun p =>
        (flowItems? false fuel p.2).bind fun q => some (p.1 :: q.1, q.2) := by
    cases h <;> rw [flowItems?] <;> rfl
  rw [hread]
  simp only [Option.map_eq_bind]
  rfl

theorem flowEntries?_end (first : Bool) :
    flowEntries? first (fuel + 1) ⟨.flowMappingEnd :: rest, handles, anchors⟩ =
      some ([], ⟨rest, handles, anchors⟩) := by
  rw [flowEntries?]
  rfl

theorem flowEntries?_comma :
    flowEntries? false (fuel + 1) ⟨.flowEntry :: .key :: ts, handles, anchors⟩ =
      flowEntries? true (fuel + 1) ⟨.key :: ts, handles, anchors⟩ := by
  rw [flowEntries?, flowEntries?]
  rfl

def entryStops : List Token := [.flowEntry, .flowMappingEnd]

theorem optionalNode?_key (plain : Bool) (key : List Char) :
    optionalNode? flowPlace (.value :: entryStops) (fuel + 2)
        ⟨.scalar plain key :: ts, handles, anchors⟩ =
      some (.scalar bare plain key, ⟨ts, handles, anchors⟩) := by
  rw [optionalNode?]
  exact node?_scalar flowPlace plain key

theorem value?_node {token : Token} (h : OpensNode token) :
    value? flowPlace entryStops (fuel + 2) ⟨.value :: token :: ts, handles, anchors⟩ =
      node? flowPlace fuel ⟨token :: ts, handles, anchors⟩ := by
  rw [value?]
  change optionalNode? _ _ _ ⟨token :: ts, handles, anchors⟩ = _
  cases h <;> rw [optionalNode?] <;> rfl

theorem flowEntries?_key :
    flowEntries? true (fuel + 1) ⟨.key :: ts, handles, anchors⟩ =
      (optionalNode? flowPlace (.value :: entryStops) fuel ⟨ts, handles, anchors⟩).bind fun key =>
        (value? flowPlace entryStops fuel key.2).bind fun value =>
          (flowEntries? false fuel value.2).bind fun entries =>
            some ((key.1, value.1) :: entries.1, entries.2) := by
  rw [flowEntries?]
  rfl

theorem flowEntries?_entry {token : Token} (h : OpensNode token) (plain : Bool) (key : List Char) :
    flowEntries? true (fuel + 3)
        ⟨.key :: .scalar plain key :: .value :: token :: ts, handles, anchors⟩ =
      (node? flowPlace fuel ⟨token :: ts, handles, anchors⟩).bind fun p =>
        (flowEntries? false (fuel + 2) p.2).map fun q =>
          ((.scalar bare plain key, p.1) :: q.1, q.2) := by
  rw [flowEntries?_key, optionalNode?_key, Option.bind_some, value?_node h]
  simp only [Option.map_eq_bind]
  rfl

theorem Written.opens {node : Node} {text : List Char} (h : Written node text) :
    ∃ token ts, node.tokens = token :: ts ∧ OpensNode token := by
  cases h with
  | scalar => exact ⟨_, _, by rw [Node.tokens], .scalar ..⟩
  | sequence => exact ⟨_, _, by rw [Node.tokens], .sequence⟩
  | mapping => exact ⟨_, _, by rw [Node.tokens], .mapping⟩

theorem WrittenItems.opens {item : Node} {items : List Node} {text : List Char}
    (h : WrittenItems (item :: items) text) :
    ∃ token ts, itemTokens (item :: items) = token :: ts ∧ OpensNode token := by
  cases h with
  | last _ hitem _ =>
    obtain ⟨token, ts, htokens, hopens⟩ := hitem.opens
    exact ⟨token, _, by rw [itemTokens, htokens, List.cons_append], hopens⟩
  | cons _ hitem _ _ =>
    obtain ⟨token, ts, htokens, hopens⟩ := hitem.opens
    exact ⟨token, _, by rw [itemTokens, htokens, List.cons_append], hopens⟩

theorem length_pairTokens_pos (entry : Node × Node) : 0 < (pairTokens entry).length := by
  obtain ⟨key, value⟩ := entry
  exact Nat.succ_pos _

theorem entryTokens_eq_cons (entry : Node × Node) (entries : List (Node × Node)) :
    ∃ ts, entryTokens (entry :: entries) = .key :: ts := by
  cases entries with
  | nil => exact ⟨_, by rw [entryTokens, pairTokens, List.cons_append]⟩
  | cons next entries => exact ⟨_, by rw [entryTokens, pairTokens, List.cons_append]⟩

theorem flowItems?_item {item : Node} {text : List Char} (h : Written item text)
    (hread : node? flowPlace fuel ⟨item.tokens ++ rest, handles, anchors⟩ =
      some (item, ⟨rest, handles, anchors⟩)) :
    flowItems? true (fuel + 1) ⟨item.tokens ++ rest, handles, anchors⟩ =
      (flowItems? false fuel ⟨rest, handles, anchors⟩).map fun q => (item :: q.1, q.2) := by
  obtain ⟨token, ts, htokens, hopens⟩ := h.opens
  rw [htokens, List.cons_append] at hread ⊢
  rw [flowItems?_node hopens, hread, Option.bind_some]

-- The induction is on how the text of the tokens was written. Each call takes one from the fuel,
-- and every collection, item and entry has tokens enough for the calls that read it.
mutual

/-- The tokens of what is written are read as the node, and what follows is left. -/
theorem Written.parses {node : Node} {text : List Char} (h : Written node text) (place : Place)
    {fuel : Nat} (hfuel : node.tokens.length ≤ fuel) (rest : List Token) :
    node? place fuel ⟨node.tokens ++ rest, handles, anchors⟩ =
      some (node, ⟨rest, handles, anchors⟩) := by
  match h with
  | .scalar _ =>
    rw [Node.tokens] at hfuel ⊢
    obtain ⟨fuel, rfl⟩ : ∃ f, fuel = f + 1 := ⟨fuel - 1, by simp at hfuel; omega⟩
    exact node?_scalar place _ _
  | .sequence hitems =>
    rw [Node.tokens] at hfuel ⊢
    obtain ⟨fuel, rfl⟩ : ∃ f, fuel = f + 1 := ⟨fuel - 1, by simp at hfuel; omega⟩
    rw [List.cons_append, node?_sequence, hitems.parses (Nat.le_of_succ_le_succ hfuel)]
    rfl
  | .mapping hentries =>
    rw [Node.tokens] at hfuel ⊢
    obtain ⟨fuel, rfl⟩ : ∃ f, fuel = f + 1 := ⟨fuel - 1, by simp at hfuel; omega⟩
    rw [List.cons_append, node?_mapping, hentries.parses (Nat.le_of_succ_le_succ hfuel)]
    rfl

theorem WrittenItems.parses {items : List Node} {text : List Char} (h : WrittenItems items text)
    {fuel : Nat} (hfuel : (itemTokens items).length ≤ fuel) (rest : List Token) :
    flowItems? true fuel ⟨itemTokens items ++ rest, handles, anchors⟩ =
      some (items, ⟨rest, handles, anchors⟩) := by
  match h with
  | .nil _ =>
    rw [itemTokens] at hfuel ⊢
    obtain ⟨fuel, rfl⟩ : ∃ f, fuel = f + 1 := ⟨fuel - 1, by simp at hfuel; omega⟩
    exact flowItems?_end true
  | .last _ hitem _ =>
    rw [itemTokens, List.length_append] at hfuel
    obtain ⟨fuel, rfl⟩ : ∃ f, fuel = f + 2 := by
      obtain ⟨token, ts, htokens, -⟩ := hitem.opens
      exact ⟨fuel - 2, by simp [htokens] at hfuel; omega⟩
    have hread := hitem.parses flowPlace (Nat.le_of_succ_le_succ hfuel) (.flowSequenceEnd :: rest)
    rw [itemTokens, List.append_assoc]
    exact (flowItems?_item hitem hread).trans (congrArg (Option.map _) (flowItems?_end false))
  | @WrittenItems.cons item next items _ _ _ _ _ hitem _ hmore =>
    rw [itemTokens, List.length_append, List.length_cons] at hfuel
    obtain ⟨token, ts, htokens, hopens⟩ := hmore.opens
    obtain ⟨fuel, rfl⟩ : ∃ f, fuel = f + 2 := ⟨fuel - 2, by simp [htokens] at hfuel; omega⟩
    have hitem' : item.tokens.length ≤ fuel + 1 := by omega
    have hmore' : (itemTokens (next :: items)).length ≤ fuel + 1 := by
      obtain ⟨_, _, hitem, -⟩ := hitem.opens
      simp [hitem] at hfuel
      omega
    have hread := hitem.parses flowPlace hitem' (.flowEntry :: (itemTokens (next :: items) ++ rest))
    have hrest := hmore.parses hmore' rest
    rw [itemTokens, List.append_assoc]
    refine (flowItems?_item hitem hread).trans ?_
    rw [htokens, List.cons_append] at hrest ⊢
    rw [flowItems?_comma hopens, hrest]
    rfl

theorem WrittenEntry.parses {entry : Node × Node} {text : List Char} (h : WrittenEntry entry text)
    {fuel : Nat} (hfuel : (pairTokens entry).length ≤ fuel + 1) (rest : List Token) :
    flowEntries? true (fuel + 1) ⟨pairTokens entry ++ rest, handles, anchors⟩ =
      (flowEntries? false fuel ⟨rest, handles, anchors⟩).map fun q => (entry :: q.1, q.2) := by
  match h with
  | @WrittenEntry.entry _ _ _ _ _ value _ _ _ _ hvalue =>
    obtain ⟨token, ts, htokens, hopens⟩ := hvalue.opens
    simp only [pairTokens, Node.tokens, List.length_cons, List.length_append, List.length_nil]
      at hfuel
    obtain ⟨fuel, rfl⟩ : ∃ f, fuel = f + 2 := ⟨fuel - 2, by omega⟩
    have hvalue' : value.tokens.length ≤ fuel := by omega
    have hread := hvalue.parses flowPlace hvalue' rest
    simp only [pairTokens, Node.tokens, List.cons_append, List.nil_append]
    rw [htokens, List.cons_append] at hread ⊢
    rw [flowEntries?_entry hopens, hread]
    rfl

theorem WrittenEntries.parses {entries : List (Node × Node)} {text : List Char}
    (h : WrittenEntries entries text) {fuel : Nat} (hfuel : (entryTokens entries).length ≤ fuel)
    (rest : List Token) :
    flowEntries? true fuel ⟨entryTokens entries ++ rest, handles, anchors⟩ =
      some (entries, ⟨rest, handles, anchors⟩) := by
  match h with
  | .nil _ =>
    rw [entryTokens] at hfuel ⊢
    obtain ⟨fuel, rfl⟩ : ∃ f, fuel = f + 1 := ⟨fuel - 1, by simp at hfuel; omega⟩
    exact flowEntries?_end true
  | @WrittenEntries.last entry _ _ _ _ hentry _ =>
    rw [entryTokens, List.length_append] at hfuel
    have hpos := length_pairTokens_pos entry
    obtain ⟨fuel, rfl⟩ : ∃ f, fuel = f + 2 := ⟨fuel - 2, by simp at hfuel; omega⟩
    have hread := hentry.parses (Nat.le_of_succ_le hfuel) (.flowMappingEnd :: rest)
    rw [entryTokens, List.append_assoc]
    exact hread.trans (congrArg (Option.map _) (flowEntries?_end false))
  | @WrittenEntries.cons entry next entries _ _ _ _ _ hentry _ hmore =>
    rw [entryTokens, List.length_append, List.length_cons] at hfuel
    obtain ⟨ts, htokens⟩ := entryTokens_eq_cons next entries
    obtain ⟨fuel, rfl⟩ : ∃ f, fuel = f + 2 := ⟨fuel - 2, by simp [htokens] at hfuel; omega⟩
    have hentry' : (pairTokens entry).length ≤ fuel + 1 + 1 := by omega
    have hmore' : (entryTokens (next :: entries)).length ≤ fuel + 1 := by
      have hpos := length_pairTokens_pos entry
      omega
    have hread := hentry.parses hentry' (.flowEntry :: (entryTokens (next :: entries) ++ rest))
    have hrest := hmore.parses hmore' rest
    rw [entryTokens, List.append_assoc]
    refine hread.trans ?_
    rw [htokens, List.cons_append] at hrest ⊢
    rw [flowEntries?_comma, hrest]
    rfl

end

end Parsing

section Printing

theorem isPrintable_of_mem {c : Char} (h : c ∈ ['[', ']', '{', '}', ',', ':']) : IsPrintable c := by
  have hall : ∀ c ∈ ['[', ']', '{', '}', ',', ':'], 0x20 ≤ c.toNat ∧ c.toNat ≤ 0x7E := by simp
  exact hall c h

mutual

theorem Written.printable {node : Node} {text : List Char} (h : Written node text) :
    ∀ c ∈ text, IsPrintable c := by
  match h with
  | .scalar htext => exact htext.printable
  | .sequence hitems =>
    exact List.forall_mem_cons.2 ⟨isPrintable_of_mem (by decide), hitems.printable⟩
  | .mapping hentries =>
    exact List.forall_mem_cons.2 ⟨isPrintable_of_mem (by decide), hentries.printable⟩

theorem WrittenItems.printable {items : List Node} {text : List Char}
    (h : WrittenItems items text) : ∀ c ∈ text, IsPrintable c := by
  match h with
  | .nil hspaces =>
    simp only [List.forall_mem_append, List.forall_mem_singleton]
    exact ⟨hspaces.printable, isPrintable_of_mem (by decide)⟩
  | .last hbefore hitem hafter =>
    simp only [List.forall_mem_append, List.forall_mem_singleton]
    exact ⟨hbefore.printable, hitem.printable, hafter.printable, isPrintable_of_mem (by decide)⟩
  | .cons hbefore hitem hafter hmore =>
    simp only [List.forall_mem_append, List.forall_mem_cons]
    exact ⟨hbefore.printable, hitem.printable, hafter.printable, isPrintable_of_mem (by decide),
      hmore.printable⟩

theorem WrittenEntry.printable {entry : Node × Node} {text : List Char}
    (h : WrittenEntry entry text) : ∀ c ∈ text, IsPrintable c := by
  match h with
  | .entry hkey _ hgap _ hvalue =>
    simp only [List.forall_mem_append, List.forall_mem_cons]
    exact ⟨hkey.printable, isPrintable_of_mem (by decide), hgap.printable, hvalue.printable⟩

theorem WrittenEntries.printable {entries : List (Node × Node)} {text : List Char}
    (h : WrittenEntries entries text) : ∀ c ∈ text, IsPrintable c := by
  match h with
  | .nil hspaces =>
    simp only [List.forall_mem_append, List.forall_mem_singleton]
    exact ⟨hspaces.printable, isPrintable_of_mem (by decide)⟩
  | .last hbefore hentry hafter =>
    simp only [List.forall_mem_append, List.forall_mem_singleton]
    exact ⟨hbefore.printable, hentry.printable, hafter.printable, isPrintable_of_mem (by decide)⟩
  | .cons hbefore hentry hafter hmore =>
    simp only [List.forall_mem_append, List.forall_mem_cons]
    exact ⟨hbefore.printable, hentry.printable, hafter.printable, isPrintable_of_mem (by decide),
      hmore.printable⟩

end

end Printing

section Documents

variable {entries : List (Node × Node)} {before text after : List Char}

theorem tokens?_mapping (h : WrittenEntries entries text) (hbefore : IsSpace before)
    (hafter : IsSpace after) :
    tokens? (before ++ '{' :: (text ++ after)) =
      some (.flowMappingStart :: entryTokens entries) := by
  have hallowed : (before ++ '{' :: (text ++ after)).all isAllowed = true := by
    refine List.all_eq_true.2 fun c hc => IsPrintable.isAllowed ?_
    revert c
    simp only [List.forall_mem_append, List.forall_mem_cons]
    exact ⟨hbefore.printable, isPrintable_of_mem (by decide), h.printable, hafter.printable⟩
  have hopen := ((Lexer.At.start (before ++ '{' :: (text ++ after))).skip hbefore).open
    (.tail _ (.head _))
  obtain ⟨lx, hat, hreads⟩ := hopen.trans fun lx' hopen => h.leads hopen
  have hend : lx.At ((entryTokens entries).reverse ++ [.flowMappingStart]) 0 false [] := by
    rw [← List.append_nil after] at hat
    exact hat.skip hafter
  have hall := hreads _ hend.finish _ (Nat.lt_succ_self _)
  rw [List.reverse_append, List.reverse_reverse] at hall
  rw [tokens?, hallowed, if_pos rfl]
  exact hall

theorem document?_mapping (ts : List Token) :
    document? (.flowMappingStart :: ts) =
      (node? entryPlace (4 * (ts.length + 1) + 4)
        ⟨.flowMappingStart :: ts, defaultHandles, []⟩).map fun p => (p.1, p.2.tokens) := by
  simp only [Option.map_eq_bind]
  rfl

theorem parse?_mapping (h : WrittenEntries entries text) (hbefore : IsSpace before)
    (hafter : IsSpace after) :
    parse? (before ++ '{' :: (text ++ after)) = some (.mapping bare entries) := by
  have htokens : (Node.mapping bare entries).tokens = .flowMappingStart :: entryTokens entries := by
    rw [Node.tokens]
  have hfuel : (Node.mapping bare entries).tokens.length ≤
      4 * ((entryTokens entries).length + 1) + 4 := by
    rw [htokens, List.length_cons]
    omega
  have hread : node? entryPlace (4 * ((entryTokens entries).length + 1) + 4)
      ⟨.flowMappingStart :: entryTokens entries, defaultHandles, []⟩ =
        some (.mapping bare entries, ⟨[], defaultHandles, []⟩) := by
    rw [← htokens, ← List.append_nil (Node.tokens _)]
    exact (Written.mapping h).parses entryPlace hfuel []
  rw [parse?, tokens?_mapping h hbefore hafter]
  simp only [Option.bind_eq_bind, Option.bind_some]
  rw [document?_mapping, hread]
  rfl

end Documents

end GraphBoard.Yaml
