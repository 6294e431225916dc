import GraphBoard.Link.Query
import GraphBoard.Proofs.Escaping
import Mathlib.Data.List.TakeWhile

set_option autoImplicit false

/-!
# Parameters of an address

An address is what stands in front of its query together with the pairs of the query. Removing a
parameter is a filter on the pairs and nothing else, so it is done at once and in any order. Adding
one puts a pair behind the others, but for one kind of query: where the query ends with a question
mark no separator is written, and the new parameter becomes part of the last pair.
-/
namespace GraphBoard

open GraphBoard.Text

namespace Text

variable {α : Type} {isSep : α → Bool}

theorem not_isSep_of_mem_splitOnP {cs w : List α} (hw : w ∈ cs.splitOnP isSep) {c : α}
    (hc : c ∈ w) : isSep c = false := by
  induction cs generalizing w with
  | nil =>
    rw [List.splitOnP_nil, List.mem_singleton] at hw
    subst hw
    contradiction
  | cons d cs ih =>
    obtain ⟨v, vs, hvs⟩ := List.exists_cons_of_ne_nil (List.splitOnP_ne_nil isSep cs)
    rw [List.splitOnP_cons_eq_if_modifyHead, hvs] at hw
    rw [hvs] at ih
    cases hd : isSep d with
    | true =>
      rw [if_pos hd] at hw
      obtain rfl | hw := List.mem_cons.1 hw
      · contradiction
      · exact ih hw hc
    | false =>
      rw [if_neg (by simp [hd]), List.modifyHead_cons] at hw
      obtain rfl | hw := List.mem_cons.1 hw
      · obtain rfl | hc := List.mem_cons.1 hc
        · exact hd
        · exact ih List.mem_cons_self hc
      · exact ih (List.mem_cons_of_mem _ hw) hc

theorem splitOnP_intercalate {sep : α} (hsep : isSep sep = true) {ws : List (List α)}
    (hne : ws ≠ []) (hws : ∀ w ∈ ws, ∀ c ∈ w, isSep c = false) :
    ([sep].intercalate ws).splitOnP isSep = ws := by
  induction ws with
  | nil => contradiction
  | cons w ws ih =>
    obtain ⟨hw, hrest⟩ := List.forall_mem_cons.1 hws
    cases ws with
    | nil =>
      rw [List.intercalate_singleton]
      exact List.splitOnP_eq_singleton hw
    | cons v ws =>
      rw [List.intercalate_cons_cons, List.append_assoc, List.singleton_append,
        List.splitOnP_append_cons_of_forall_mem hw sep hsep, ih nofun hrest]

theorem intercalate_concat_append (sep last w : List α) (kept : List (List α)) :
    sep.intercalate (kept ++ [last]) ++ w = sep.intercalate (kept ++ [last ++ w]) := by
  induction kept with
  | nil => simp
  | cons v kept ih =>
    rw [List.cons_append, List.cons_append, List.intercalate_cons_of_ne_nil (by simp),
      List.intercalate_cons_of_ne_nil (by simp), List.append_assoc, ih]

/-- Without a separator in front, what is appended goes on with the last piece. -/
theorem splitOn_append_of_not_mem [BEq α] [LawfulBEq α] {sep : α} {cs w last : List α}
    {kept : List (List α)} (hcs : cs.splitOn sep = kept ++ [last]) (hw : sep ∉ w) :
    (cs ++ w).splitOn sep = kept ++ [last ++ w] := by
  have hpieces : ∀ piece ∈ kept ++ [last], sep ∉ piece := by
    intro piece hpiece hmem
    rw [← hcs, List.splitOn_eq_splitOnP] at hpiece
    have hne := not_isSep_of_mem_splitOnP hpiece hmem
    rw [beq_self_eq_true] at hne
    contradiction
  obtain ⟨hkept, hlast⟩ := List.forall_mem_append.1 hpieces
  have hjoined : cs ++ w = [sep].intercalate (kept ++ [last ++ w]) := by
    rw [← intercalate_concat_append, ← hcs, List.intercalate_splitOn]
  rw [hjoined]
  refine List.splitOn_intercalate sep (List.forall_mem_append.2 ⟨hkept, ?_⟩) (by simp)
  rw [List.forall_mem_singleton, List.mem_append, not_or]
  exact ⟨hlast last (List.mem_singleton_self last), hw⟩

section
variable {mark : Char} {front rest cs : List Char}

theorem not_mem_takeWhile_mark (mark : Char) (cs : List Char) :
    mark ∉ cs.takeWhile (· != mark) := fun h => by
  have hne := List.all_eq_true.1 List.all_takeWhile _ h
  rw [bne_self_eq_false] at hne
  contradiction

theorem eq_of_mem_head_dropWhile_mark {c : Char} (h : c ∈ (cs.dropWhile (· != mark)).head?) :
    c = mark := by
  have hnot := List.head?_dropWhile_not (· != mark) cs
  rw [Option.mem_def.1 h] at hnot
  simpa using hnot

theorem takeWhile_mark (hfront : mark ∉ front) (hrest : ∀ c ∈ rest.head?, c = mark) :
    (front ++ rest).takeWhile (· != mark) = front := by
  have hne : ∀ c ∈ front, (c != mark) = true := fun c hc => bne_iff_ne.2 fun h => hfront (h ▸ hc)
  rw [List.takeWhile_append_of_pos hne]
  cases rest with
  | nil => exact List.append_nil front
  | cons c rest =>
    obtain rfl := hrest c rfl
    simp

theorem dropWhile_mark (hfront : mark ∉ front) (hrest : ∀ c ∈ rest.head?, c = mark) :
    (front ++ rest).dropWhile (· != mark) = rest := by
  have hne : ∀ c ∈ front, (c != mark) = true := fun c hc => bne_iff_ne.2 fun h => hfront (h ▸ hc)
  rw [List.dropWhile_append_of_pos hne]
  cases rest with
  | nil => rfl
  | cons c rest =>
    obtain rfl := hrest c rfl
    simp

end

end Text

namespace Link

section
variable {front cs : List Char}

theorem mark_not_mem_beforeQuery (cs : List Char) : '?' ∉ beforeQuery cs :=
  not_mem_takeWhile_mark '?' cs

theorem beforeQuery_append (h : '?' ∉ front) (query : List Char) :
    beforeQuery (front ++ '?' :: query) = front := takeWhile_mark h (by simp)

theorem query?_append (h : '?' ∉ front) (query : List Char) :
    query? (front ++ '?' :: query) = some query := by
  rw [query?, dropWhile_mark h (by simp)]

theorem beforeQuery_of_not_mem (h : '?' ∉ cs) : beforeQuery cs = cs := by
  have htake := @takeWhile_mark '?' cs [] h (by simp)
  rwa [List.append_nil] at htake

theorem query?_of_not_mem (h : '?' ∉ cs) : query? cs = none := by
  have hdrop := @dropWhile_mark '?' cs [] h (by simp)
  rw [List.append_nil] at hdrop
  rw [query?, hdrop]

end

def gap (query : List Char) : List Char :=
  if query = [] ∨ query.getLast? = some '?' ∨ query.getLast? = some '&' then [] else ['&']

theorem separator_append (front query : List Char) :
    separator (front ++ '?' :: query) = gap query := by
  have hmark : (front ++ '?' :: query).contains '?' = true := by simp
  have hlast : (front ++ '?' :: query).getLast? = some (query.getLast?.getD '?') := by
    rw [List.getLast?_append, List.getLast?_cons]
    rfl
  simp only [separator, hmark, hlast, gap]
  cases hquery : query.getLast? with
  | none => simp [List.getLast?_eq_none_iff.1 hquery]
  | some c =>
    have hne : query ≠ [] := by
      rintro rfl
      contradiction
    simp [hne]

theorem addParameterChars_cut (cs name value : List Char) :
    addParameterChars cs name value = beforeQuery cs ++
      '?' :: ((query? cs).getD [] ++ gap ((query? cs).getD []) ++ (name ++ '=' :: value)) := by
  by_cases hmark : '?' ∈ cs
  · obtain ⟨front, query, rfl, hfront⟩ := List.eq_append_cons_of_mem hmark
    rw [addParameterChars, separator_append, beforeQuery_append hfront, query?_append hfront]
    simp
  · have hseparator : separator cs = ['?'] := by simp [separator, hmark]
    rw [addParameterChars, hseparator, beforeQuery_of_not_mem hmark, query?_of_not_mem hmark]
    simp [gap]

section
variable {query pair : List Char}

theorem split_gap_of_open (h : query = [] ∨ query.getLast? = some '&')
    (hpair : '&' ∉ pair) :
    ∃ kept, query.splitOn '&' = kept ++ [[]] ∧
      (query ++ gap query ++ pair).splitOn '&' = kept ++ [pair] := by
  have hgap : gap query = [] := if_pos (h.imp_right .inr)
  have hsplit : ∃ kept, query.splitOn '&' = kept ++ [[]] := by
    obtain rfl | hlast := h
    · exact ⟨[], rfl⟩
    · obtain ⟨rest, rfl⟩ := List.getLast?_eq_some_iff.1 hlast
      exact ⟨rest.splitOn '&', List.splitOn_append_cons_self rest []⟩
  obtain ⟨kept, hkept⟩ := hsplit
  refine ⟨kept, hkept, ?_⟩
  rw [hgap, List.append_nil, splitOn_append_of_not_mem hkept hpair, List.nil_append]

/-- Behind a question mark at the end the new pair is read as a part of the last one. -/
theorem split_gap_of_mark (h : query.getLast? = some '?')
    (hpair : '&' ∉ pair) :
    ∃ kept last, query.splitOn '&' = kept ++ [last] ∧
      (query ++ gap query ++ pair).splitOn '&' = kept ++ [last ++ pair] := by
  have hgap : gap query = [] := if_pos (.inr (.inl h))
  have hsplit := List.dropLast_concat_getLast (List.splitOn_ne_nil '&' query)
  refine ⟨_, _, hsplit.symm, ?_⟩
  rw [hgap, List.append_nil, splitOn_append_of_not_mem hsplit.symm hpair]

theorem split_gap (hquery : query ≠ []) (hseparator : query.getLast? ≠ some '&')
    (hmark : query.getLast? ≠ some '?') (hpair : '&' ∉ pair) :
    (query ++ gap query ++ pair).splitOn '&' = query.splitOn '&' ++ [pair] := by
  have hgap : gap query = ['&'] := if_neg (by simp [hquery, hseparator, hmark])
  rw [hgap, List.append_assoc, List.singleton_append, List.splitOn_append_cons_self,
    List.splitOn_eq_singleton hpair]

end

end Link

open Link

/-- A parameter is one more pair of the query, and its last, unless the query ended with a question
mark. Then it is written without a separator and the last pair goes on with it. -/
theorem parameter_added {url name value : String} (hname : '&' ∉ name.toList)
    (hvalue : '&' ∉ value.toList) :
    let result := (addParameter url name value).toList
    let query := (query? url.toList).getD []
    let pair := name.toList ++ '=' :: value.toList
    beforeQuery result = beforeQuery url.toList ∧ ∃ extended, query? result = some extended ∧
      (query = [] ∨ query.getLast? = some '&' → ∃ kept,
        query.splitOn '&' = kept ++ [[]] ∧ extended.splitOn '&' = kept ++ [pair]) ∧
      (query ≠ [] → query.getLast? ≠ some '&' → query.getLast? ≠ some '?' →
        extended.splitOn '&' = query.splitOn '&' ++ [pair]) ∧
      (query.getLast? = some '?' → ∃ kept last,
        query.splitOn '&' = kept ++ [last] ∧
          extended.splitOn '&' = kept ++ [last ++ pair]) := by
  intro result query pair
  have hresult : result = beforeQuery url.toList ++ '?' :: (query ++ gap query ++ pair) := by
    rw [← addParameterChars_cut]
    exact String.toList_ofList
  have hpair : '&' ∉ pair := by simp [pair, hname, hvalue]
  have hfront := mark_not_mem_beforeQuery url.toList
  rw [hresult, beforeQuery_append hfront, query?_append hfront]
  exact ⟨rfl, _, rfl, fun h => split_gap_of_open h hpair, fun h hseparator hmark =>
    split_gap h hseparator hmark hpair, fun h => split_gap_of_mark h hpair⟩

theorem parameter_added_week :
    ∃ extended, query? (addParameter "/render?target=a?b&" "timeframe" "week").toList =
      some extended ∧
      extended.splitOn '&' = ["target=a?b".toList, "timeframe=week".toList] := by
  obtain ⟨-, extended, hextended, hopen, -⟩ := @parameter_added "/render?target=a?b&" "timeframe"
    "week" (by decide) (by decide)
  obtain ⟨kept, hquery, hsplit⟩ := hopen (.inr (by decide))
  have hkept : kept = ["target=a?b".toList] := by
    have hpieces : "target=a?b&".toList.splitOn '&' = ["target=a?b".toList] ++ [[]] := by
      decide
    exact (List.append_inj_left' (hpieces.symm.trans hquery) rfl).symm
  exact ⟨extended, hextended, by rw [hsplit, hkept]; rfl⟩

/-- A title that ends with a question mark takes the range in. -/
theorem parameter_merged : ¬ ∀ url name value : String,
    (∀ c ∈ ['&', ';', '?', '#'], c ∉ name.toList ∧ c ∉ value.toList) →
    let result := (addParameter url name value).toList
    let query := (query? url.toList).getD []
    beforeQuery result = beforeQuery url.toList ∧ ∃ extended, query? result = some extended ∧
      extended.splitOn '&' =
        (if query = [] ∨ query.getLast? = some '&' then (query.splitOn '&').dropLast
          else query.splitOn '&') ++ [name.toList ++ '=' :: value.toList] := by
  intro h
  obtain ⟨-, extended, hextended, hsplit⟩ :=
    h "/render?title=why?" "timeframe" "day" (by simp)
  have hmerged : query? (addParameter "/render?title=why?" "timeframe" "day").toList =
      some "title=why?timeframe=day".toList := by decide
  rw [hmerged] at hextended
  cases hextended
  exact absurd hsplit (by decide)

namespace Link

open Text.Percent

def pairsOf (cs : List Char) : List (List Char) := (query? cs).elim [] pairs

def withPairs (front : List Char) : List (List Char) → List Char
  | [] => front
  | first :: others => front ++ '?' :: ['&'].intercalate (first :: others)

def IsPair (pair : List Char) : Prop := ∀ c ∈ pair, (c == '&' || c == ';') = false

theorem pairsOf_eq {cs query : List Char} (h : query? cs = some query) :
    pairsOf cs = pairs query := by
  rw [pairsOf, h]
  rfl

theorem mem_pairsOf {cs pair : List Char} :
    pair ∈ pairsOf cs ↔ ∃ query ∈ query? cs, pair ∈ pairs query := by
  cases hquery : query? cs with
  | none => simp [pairsOf, hquery]
  | some query => simp [pairsOf_eq hquery]

theorem isPair_of_mem_pairsOf {cs pair : List Char} (h : pair ∈ pairsOf cs) : IsPair pair := by
  obtain ⟨query, -, hmem⟩ := mem_pairsOf.1 h
  exact fun c hc => not_isSep_of_mem_splitOnP hmem hc

section
variable {front : List Char} {kept : List (List Char)}

theorem query?_withPairs (hfront : '?' ∉ front) :
    query? (withPairs front kept) = if kept = [] then none else some (['&'].intercalate kept) := by
  cases kept with
  | nil => exact query?_of_not_mem hfront
  | cons first others => exact query?_append hfront _

theorem beforeQuery_withPairs (hfront : '?' ∉ front) :
    beforeQuery (withPairs front kept) = front := by
  cases kept with
  | nil => exact beforeQuery_of_not_mem hfront
  | cons first others => exact beforeQuery_append hfront _

theorem pairsOf_withPairs (hfront : '?' ∉ front) (hkept : ∀ pair ∈ kept, IsPair pair) :
    pairsOf (withPairs front kept) = kept := by
  rw [pairsOf, query?_withPairs hfront]
  split
  · rename_i hnil
    exact hnil.symm
  · rename_i hne
    exact splitOnP_intercalate rfl hne hkept

end

section
variable (cs name other : List Char)

theorem removeParameterChars_eq : removeParameterChars cs name =
    withPairs (beforeQuery cs) ((pairsOf cs).filter fun pair => !isPairOf name pair) := by
  by_cases hmark : '?' ∈ cs
  · obtain ⟨front, query, rfl, hfront⟩ := List.eq_append_cons_of_mem hmark
    have hquery := query?_append hfront query
    simp only [removeParameterChars, hquery, pairsOf_eq hquery]
    cases (pairs query).filter fun pair => !isPairOf name pair with
    | nil => rfl
    | cons first others => rfl
  · rw [removeParameterChars, pairsOf, query?_of_not_mem hmark]
    exact (beforeQuery_of_not_mem hmark).symm

theorem beforeQuery_removeParameterChars :
    beforeQuery (removeParameterChars cs name) = beforeQuery cs := by
  rw [removeParameterChars_eq, beforeQuery_withPairs (mark_not_mem_beforeQuery cs)]

theorem pairsOf_removeParameterChars : pairsOf (removeParameterChars cs name) =
    (pairsOf cs).filter fun pair => !isPairOf name pair := by
  rw [removeParameterChars_eq, pairsOf_withPairs (mark_not_mem_beforeQuery cs)]
  exact fun pair hpair => isPair_of_mem_pairsOf (List.mem_filter.1 hpair).1

theorem removeParameterChars_twice :
    removeParameterChars (removeParameterChars cs name) other = withPairs (beforeQuery cs)
      ((pairsOf cs).filter fun pair => !isPairOf other pair && !isPairOf name pair) := by
  rw [removeParameterChars_eq (removeParameterChars cs name), beforeQuery_removeParameterChars,
    pairsOf_removeParameterChars, List.filter_filter]

theorem removeParameterChars_self :
    removeParameterChars (removeParameterChars cs name) name = removeParameterChars cs name := by
  rw [removeParameterChars_twice, removeParameterChars_eq cs]
  simp only [Bool.and_self]

theorem removeParameterChars_comm :
    removeParameterChars (removeParameterChars cs name) other =
      removeParameterChars (removeParameterChars cs other) name := by
  simp only [removeParameterChars_twice, Bool.and_comm]

end

def Gives (name pair : List Char) : Prop := encode isUnreserved name ++ ['='] <+: pair

instance (name pair : List Char) : Decidable (Gives name pair) :=
  inferInstanceAs (Decidable (_ <+: _))

theorem filter_isPairOf (name : List Char) (found : List (List Char)) :
    (found.filter fun pair => !isPairOf name pair) =
      found.filter fun pair => ¬ Gives name pair := by
  refine List.filter_congr fun pair _ => ?_
  have hgives : isPairOf name pair = decide (Gives name pair) := by
    rw [Bool.eq_iff_iff, decide_eq_true_iff]
    exact List.isPrefixOf_iff_prefix
  rw [hgives, decide_not]

theorem Gives.takeWhile {name pair : List Char} (h : Gives name pair) :
    pair.takeWhile (· != '=') = encode isUnreserved name := by
  obtain ⟨value, rfl⟩ := h
  -- An encoded name has no equals sign, so the first one of the pair is the one behind the name.
  have hname : '=' ∉ encode isUnreserved name := fun hmem =>
    absurd (isWritten_of_mem_encode hmem) (by decide)
  rw [List.append_assoc]
  exact takeWhile_mark hname (by simp)

end Link

/-- A parameter is removed with all its pairs and nothing else: the other pairs stay as they are and
in order, those of longer names too. -/
theorem parameter_removed (url name other : String) :
    let result := removeParameter url name
    (query? url.toList = none → result = url) ∧
    (∀ query ∈ query? url.toList,
      let kept := (pairs query).filter fun pair => ¬ Gives name.toList pair
      beforeQuery result.toList = beforeQuery url.toList ∧
        query? result.toList = (if kept = [] then none else some (['&'].intercalate kept)) ∧
        (∀ rest ∈ query? result.toList,
          pairs rest = kept ∧ ∀ pair ∈ pairs rest, ¬ Gives name.toList pair) ∧
        ∀ pair ∈ pairs query,
          pair.takeWhile (· != '=') ≠ Percent.encode Percent.isUnreserved name.toList →
            ∃ rest ∈ query? result.toList, pair ∈ pairs rest) ∧
    removeParameter result name = result ∧
    removeParameter result other = removeParameter (removeParameter url other) name := by
  intro result
  have hresult : result.toList = removeParameterChars url.toList name.toList :=
    String.toList_ofList
  rw [hresult]
  refine ⟨fun hnone => ?_, fun query hquery => ?_, ?_, ?_⟩
  · rw [← String.toList_inj, hresult, removeParameterChars, hnone]
  · have hpairs : pairsOf (removeParameterChars url.toList name.toList) =
        (pairs query).filter fun pair => ¬ Gives name.toList pair := by
      rw [pairsOf_removeParameterChars, pairsOf_eq hquery, filter_isPairOf]
    refine ⟨beforeQuery_removeParameterChars _ _, ?_, fun rest hrest => ?_,
      fun pair hpair hname => ?_⟩
    · rw [removeParameterChars_eq, query?_withPairs (mark_not_mem_beforeQuery _),
        pairsOf_eq hquery, filter_isPairOf]
    · rw [← pairsOf_eq hrest, hpairs]
      exact ⟨rfl, fun pair hpair => of_decide_eq_true (List.mem_filter.1 hpair).2⟩
    · rw [← mem_pairsOf, hpairs]
      exact List.mem_filter.2 ⟨hpair, decide_eq_true fun hgives => hname hgives.takeWhile⟩
  · rw [removeParameter, hresult, removeParameterChars_self, ← hresult, String.ofList_toList]
  · rw [removeParameter, hresult, removeParameterChars_comm]
    simp only [removeParameter, String.toList_ofList]

theorem parameter_removed_longer :
    let url := "/render?formats=1;format=png&target=a?b"
    let result := removeParameter url "format"
    query? url.toList = some "formats=1;format=png&target=a?b".toList ∧
      (∃ rest ∈ query? result.toList, "formats=1".toList ∈ pairs rest) ∧
      removeParameter result "format" = result := by
  intro url result
  have hquery : query? url.toList = some "formats=1;format=png&target=a?b".toList := by decide
  obtain ⟨-, hremoved, hself, -⟩ := parameter_removed url "format" "target"
  obtain ⟨-, -, -, hkept⟩ := hremoved _ hquery
  exact ⟨hquery, hkept "formats=1".toList (by decide) (by decide), hself⟩

end GraphBoard
