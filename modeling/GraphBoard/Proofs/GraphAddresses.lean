import GraphBoard.Panel.Basic
import GraphBoard.Proofs.Parameters
import GraphBoard.Url.Parse

set_option autoImplicit false

namespace GraphBoard

open GraphBoard.Text

def TimeRange.pair (range : TimeRange) : List Char := "timeframe=".toList ++ range.name.toList

namespace Text.Percent

theorem bounds_of_isWritten {c : Char} (h : isWritten c = true) :
    0x20 < c.toNat ∧ c.toNat < 0x80 := by
  delta isWritten isUnreserved Char.isAlphanum Char.isAlpha Char.isUpper Char.isLower
    Char.isDigit at h
  simp only [Bool.or_eq_true, Bool.and_eq_true, decide_eq_true_eq, beq_iff_eq,
    UInt32.le_iff_toNat_le, ge_iff_le] at h
  change ((((((((65 ≤ c.toNat ∧ c.toNat ≤ 90) ∨ (97 ≤ c.toNat ∧ c.toNat ≤ 122)) ∨
    (48 ≤ c.toNat ∧ c.toNat ≤ 57)) ∨ c = '-') ∨ c = '_') ∨ c = '.') ∨ c = '~') ∨ c = '%') at h
  obtain ((((((((h | h) | h) | rfl) | rfl) | rfl) | rfl) | rfl)) := h
  · omega
  · omega
  · omega
  all_goals exact ⟨by decide, by decide⟩

end Text.Percent

namespace Link

open Text.Percent

theorem eq_of_cutAuthority {cs before after : List Char}
    (h : cutAuthority cs = some (before, after)) : cs = before ++ "://".toList ++ after := by
  induction cs generalizing before with
  | nil => contradiction
  | cons c cs ih =>
    rw [cutAuthority.eq_def] at h
    split at h
    · contradiction
    · rename_i rest heq
      cases h
      exact heq
    · rename_i d rest _ heq
      obtain ⟨rfl, rfl⟩ := List.cons.inj heq
      obtain ⟨⟨front, back⟩, hcut, hpair⟩ := Option.map_eq_some_iff.1 h
      obtain ⟨rfl, rfl⟩ := Prod.mk.inj hpair
      exact congrArg (c :: ·) (ih hcut)

def front (cs : List Char) : List Char :=
  (Parts.ofChars cs).origin ++ escapePath (Parts.ofChars cs).path

theorem escapeChars_eq (cs : List Char) :
    escapeChars cs = front cs ++ (Parts.ofChars cs).query := rfl

theorem mark_not_mem_front (cs : List Char) : '?' ∉ front cs := by
  intro h
  obtain horigin | hpath := List.mem_append.1 h
  · exact mark_not_mem_beforeQuery cs (List.mem_of_mem_take horigin)
  · obtain heq | hwritten := mem_escapePath hpath
    · exact absurd heq (by decide)
    · exact absurd hwritten (by decide)

theorem query_ofChars (cs : List Char) :
    (Parts.ofChars cs).query = [] ∨ ∃ rest, (Parts.ofChars cs).query = '?' :: rest := by
  change cs.dropWhile (· != '?') = [] ∨ ∃ rest, cs.dropWhile (· != '?') = '?' :: rest
  cases hdrop : cs.dropWhile (· != '?') with
  | nil => exact .inl rfl
  | cons c rest =>
    have hc : c ∈ (cs.dropWhile (· != '?')).head? := by
      rw [hdrop]
      rfl
    exact .inr ⟨rest, by rw [eq_of_mem_head_dropWhile_mark hc]⟩

theorem originLength_eq_zero {cs : List Char}
    (h : ∀ before after, cutAuthority cs = some (before, after) → isScheme before = false) :
    originLength cs = 0 := by
  unfold originLength
  split
  · rename_i before after hcut
    rw [if_neg]
    simp [h before after hcut]
  · rfl

theorem of_mem_head_front (cs : List Char) {c : Char} (h : c ∈ (front cs).head?) :
    c = '/' ∨ isWritten c = true := by
  have hwritten : ∀ d ∈ (escapePath (Parts.ofChars cs).path).head?, d = '/' ∨ isWritten d = true :=
    fun d hd => mem_escapePath (List.mem_of_mem_head? hd)
  simp only [front, Parts.ofChars, originLength] at h hwritten
  split at h
  · rename_i before after hcut
    split at h
    · rename_i hscheme
      cases before with
      | nil => contradiction
      | cons d before =>
        simp only [isScheme, Bool.and_eq_true] at hscheme
        rw [eq_of_cutAuthority hcut] at h
        have hd : isWritten d = true := by
          simp only [isWritten, isUnreserved, Char.isAlphanum, hscheme.1, Bool.true_or]
        simp only [List.cons_append, List.length_cons, Nat.add_right_comm _ 1, List.take_succ_cons,
          List.head?_cons, Option.mem_def, Option.some.injEq] at h
        exact .inr (h ▸ hd)
    · rename_i hscheme
      rw [hcut] at hwritten
      simp only [hscheme] at hwritten
      exact hwritten c h
  · rename_i hcut
    rw [hcut] at hwritten
    exact hwritten c h

/-- No address opens with something that reading it would take away. -/
theorem lt_of_mem_head_front (cs : List Char) {c : Char} (h : c ∈ (front cs).head?) :
    0x20 < c.toNat := by
  obtain rfl | hwritten := of_mem_head_front cs h
  · decide
  · exact (bounds_of_isWritten hwritten).1

def IsSeparator (mark : List Char) : Prop := mark = [] ∨ mark = ['&']

theorem isSeparator_gap (query : List Char) : IsSeparator (gap query) := by
  unfold gap
  split
  · exact .inl rfl
  · exact .inr rfl

theorem addParameterChars_eq {front query : List Char} (hfront : '?' ∉ front)
    (hquery : query = [] ∨ ∃ rest, query = '?' :: rest) (name value : List Char) :
    ∃ mark, IsSeparator mark ∧ addParameterChars (front ++ query) name value =
      front ++ '?' :: (query.drop 1 ++ mark ++ (name ++ '=' :: value)) := by
  refine ⟨gap (query.drop 1), isSeparator_gap _, ?_⟩
  rw [addParameterChars_cut]
  obtain rfl | ⟨rest, rfl⟩ := hquery
  · rw [List.append_nil, beforeQuery_of_not_mem hfront, query?_of_not_mem hfront]
    rfl
  · rw [beforeQuery_append hfront, query?_append hfront]
    rfl

end Link

namespace Panel

/-- The address of a graph, cut where its query begins. -/
theorem toList_urlOf (source : String) (range : TimeRange) : ∃ mark, Link.IsSeparator mark ∧
    (urlOf source range).toList = Link.front source.toList ++
      '?' :: ((Link.Parts.ofChars source.toList).query.drop 1 ++ mark ++ range.pair) := by
  have hquery := Link.query_ofChars source.toList
  have heq : (urlOf source range).toList = Link.addParameterChars
      (Link.front source.toList ++ (Link.Parts.ofChars source.toList).query) "timeframe".toList
      range.name.toList := by
    rw [← Link.escapeChars_eq]
    simp only [urlOf, Link.addParameter, Link.escape, String.toList_ofList]
  rw [heq]
  exact Link.addParameterChars_eq (Link.mark_not_mem_front source.toList) hquery _ _

end Panel

namespace Url

def isKept (c : Char) : Bool := !(['\t', '\n', '\r'].contains c)

theorem isKept_of_lt {c : Char} (h : 0x20 < c.toNat) : isKept c = true := by
  have hne : c ≠ '\t' ∧ c ≠ '\n' ∧ c ≠ '\r' := by
    refine ⟨?_, ?_, ?_⟩ <;> rintro rfl <;> exact absurd h (by decide)
  simp [isKept, hne]

theorem filter_isKept {cs : List Char} (h : ∀ c ∈ cs, 0x20 < c.toNat) : cs.filter isKept = cs :=
  List.filter_eq_self.2 fun c hc => isKept_of_lt (h c hc)

theorem significant_eq {cs : List Char} (hhead : ∀ c ∈ cs.head?, 0x20 < c.toNat)
    (hlast : ∀ c ∈ cs.getLast?, 0x20 < c.toNat) : significant cs = cs.filter isKept := by
  have hdrop : ∀ l : List Char, (∀ c ∈ l.head?, 0x20 < c.toNat) →
      l.dropWhile (fun c => decide (c.toNat ≤ 0x20)) = l := by
    intro l hl
    cases l with
    | nil => rfl
    | cons c l =>
      have hc : 0x20 < c.toNat := hl c rfl
      rw [List.dropWhile_cons, if_neg]
      simp only [decide_eq_true_eq]
      omega
  have hback := hdrop cs.reverse (by rwa [List.head?_reverse])
  simp only [significant, hdrop cs hhead, hback, List.reverse_reverse]
  rfl

/-- Of the address of a graph all counts but tabs and line breaks. -/
theorem significant_urlOf (source : String) (range : TimeRange) :
    significant (Panel.urlOf source range).toList =
      (Panel.urlOf source range).toList.filter isKept := by
  obtain ⟨mark, -, hurl⟩ := Panel.toList_urlOf source range
  have hpair : range.pair.all fun c => decide (0x20 < c.toNat) := by cases range <;> rfl
  have hlast : ∀ l : List Char, (l ++ range.pair).getLast? = range.pair.getLast? := by
    intro l
    rw [List.getLast?_append]
    cases range <;> rfl
  rw [hurl]
  refine significant_eq (fun c hc => ?_) (fun c hc => ?_)
  · cases hfront : Link.front source.toList with
    | nil =>
      rw [hfront] at hc
      cases hc
      decide
    | cons d rest =>
      rw [hfront] at hc
      exact Link.lt_of_mem_head_front source.toList (by rw [hfront]; exact hc)
  · rw [← List.cons_append, ← List.append_assoc, hlast] at hc
    exact of_decide_eq_true (List.all_eq_true.1 hpair c (List.mem_of_getLast? hc))

theorem significant_urlOf_cut (source : String) (range : TimeRange) :
    ∃ mark, Link.IsSeparator mark ∧ significant (Panel.urlOf source range).toList =
      (Link.front source.toList).filter isKept ++
        '?' :: (((Link.Parts.ofChars source.toList).query.drop 1).filter isKept ++ mark ++
          range.pair) := by
  obtain ⟨mark, hmark, hurl⟩ := Panel.toList_urlOf source range
  have hpair : range.pair.filter isKept = range.pair := by cases range <;> decide
  have hfilter : mark.filter isKept = mark := by
    obtain rfl | rfl := hmark <;> rfl
  refine ⟨mark, hmark, ?_⟩
  rw [significant_urlOf, hurl, List.filter_append, List.filter_cons_of_pos (by decide),
    List.filter_append, List.filter_append, hfilter, hpair]

end Url

end GraphBoard
