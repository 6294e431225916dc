import GraphBoard.Http.Client
import GraphBoard.Proofs.AddressReading
import GraphBoard.Proofs.GraphAddresses
import Mathlib.Data.List.TakeWhile

set_option autoImplicit false

namespace GraphBoard

open GraphBoard.Text GraphBoard.Url

namespace Url

/-- Behind a number sign nothing counts for the query. -/
theorem queryText_append_of_mem {cs : List Char} (h : '#' ∈ cs) (more : List Char) :
    queryText (cs ++ more) = queryText cs := by
  have hlength : (cs.takeWhile (· != '#')).length ≠ cs.length := fun heq => by
    have htake := (List.takeWhile_prefix (· != '#')).eq_of_length heq
    exact absurd (List.takeWhile_eq_self_iff.1 htake _ h) (by decide)
  rw [queryText, queryText, List.takeWhile_append, if_neg hlength]

theorem queryText_mark {front rest : List Char} (hmark : '?' ∉ front) (hsharp : '#' ∉ front)
    (hrest : '#' ∉ rest) : queryText (front ++ '?' :: rest) = some rest := by
  have hplain : IsPlain front := fun c hc => by
    refine isPathEnd_of_ne ?_ ?_ <;> rintro rfl <;> contradiction
  have hcons : ∀ c ∈ '?' :: rest, (c != '#') = true := by
    refine List.forall_mem_cons.2 ⟨rfl, fun c hc => bne_iff_ne.2 ?_⟩
    rintro rfl
    contradiction
  rw [queryText_append hplain, queryText, List.takeWhile_eq_self_iff.2 hcons]
  rfl

theorem encode_pair (special : Bool) (range : TimeRange) :
    Percent.encode (keepInQuery special) range.pair = range.pair := by
  cases special <;> cases range <;> decide

end Url

theorem Http.Client.queryFrom_resolve {base a : Address} {url : String}
    (hserver : isServerScheme base.scheme = true) {c : Char} {rest : List Char} (hc : c ≠ '#')
    (hurl : significant url.toList = c :: rest)
    (h : Http.Client.resolve ⟨some base⟩ url = .ok a) :
    a.QueryFrom (significant url.toList) := by
  unfold Http.Client.resolve at h
  split at h
  · cases h
    rename_i hparse
    exact (queryFrom_parse hparse).1
  · rw [hurl]
    cases hjoin : join base url with
    | error e =>
      simp only [hjoin] at h
      contradiction
    | ok b =>
      simp only [hjoin] at h
      cases h
      exact queryFrom_join hserver hc hurl hjoin
  · contradiction

theorem Url.head_significant_urlOf (source : String) (range : TimeRange) :
    ∃ c rest, c ≠ '#' ∧ significant (Panel.urlOf source range).toList = c :: rest := by
  obtain ⟨mark, -, hurl⟩ := significant_urlOf_cut source range
  rw [hurl]
  cases hfront : Link.front source.toList with
  | nil => exact ⟨'?', _, by decide, rfl⟩
  | cons c rest =>
    have hhead : c ∈ (Link.front source.toList).head? := by
      rw [hfront]
      rfl
    have hne : c ≠ '#' := by
      rintro rfl
      exact (Link.of_mem_head_front _ hhead).elim (by decide) (by decide)
    rw [List.filter_cons_of_pos (isKept_of_lt (Link.lt_of_mem_head_front _ hhead))]
    exact ⟨c, _, hne, rfl⟩

namespace Panel

theorem toList_urlOf_append (source : String) (range : TimeRange) :
    ∃ more, (urlOf source range).toList = (Link.escape source).toList ++ more := by
  simp only [urlOf, Link.addParameter, Link.addParameterChars, String.toList_ofList,
    List.append_assoc]
  exact ⟨_, rfl⟩

theorem queryText_urlOf {source : String} (h : '#' ∉ (Link.escape source).toList)
    (range : TimeRange) :
    ∃ before,
      queryText (significant (urlOf source range).toList) = some (before ++ range.pair) := by
  obtain ⟨mark, hmark, hurl⟩ := significant_urlOf_cut source range
  have hescape : (Link.escape source).toList =
      Link.front source.toList ++ (Link.Parts.ofChars source.toList).query := by
    rw [Link.escape, String.toList_ofList, Link.escapeChars_eq]
  rw [hescape, List.mem_append, not_or] at h
  have hpair : '#' ∉ range.pair := by cases range <;> decide
  have hseparator : '#' ∉ mark := by obtain rfl | rfl := hmark <;> decide
  have hquery : '#' ∉ ((Link.Parts.ofChars source.toList).query.drop 1).filter isKept := fun hmem =>
    h.2 (List.mem_of_mem_drop (List.mem_filter.1 hmem).1)
  refine ⟨((Link.Parts.ofChars source.toList).query.drop 1).filter isKept ++ mark, ?_⟩
  rw [hurl, queryText_mark]
  · exact fun hmem => Link.mark_not_mem_front _ (List.mem_filter.1 hmem).1
  · exact fun hmem => h.1 (List.mem_filter.1 hmem).1
  · simp only [List.mem_append, not_or]
    exact ⟨⟨hquery, hseparator⟩, hpair⟩

theorem queryText_urlOf_of_mem {source : String} (h : '#' ∈ (Link.escape source).toList)
    (range : TimeRange) : queryText (significant (urlOf source range).toList) =
      queryText ((Link.escape source).toList.filter isKept) := by
  obtain ⟨more, hmore⟩ := toList_urlOf_append source range
  rw [significant_urlOf, hmore, List.filter_append]
  exact queryText_append_of_mem (List.mem_filter.2 ⟨h, by decide⟩) _

end Panel

/-- A server is told the range of a source without a number sign, and of any other source nothing
but what stands in front of the sign. -/
theorem range_sent {source : String} {base a : Address} {range : TimeRange}
    (hweb : base.scheme = "http".toList ∨ base.scheme = "https".toList)
    (hresolve : Http.Client.resolve ⟨some base⟩ (Panel.urlOf source range) = .ok a) :
    ('#' ∉ (Link.escape source).toList →
      (∃ query, a.query = some query ∧ range.pair <:+ query) ∧
        range.pair <:+ (Http.Request.of .get a []).target.toList) ∧
    ('#' ∈ (Link.escape source).toList →
      a.query = (queryText ((Link.escape source).toList.filter isKept)).map
        (Percent.encode (keepInQuery (isSpecialScheme a.scheme)))) := by
  have hserver : isServerScheme base.scheme = true := isServerScheme_of_web hweb
  obtain ⟨c, rest, hc, hurl⟩ := Url.head_significant_urlOf source range
  have hquery : a.query = _ := Http.Client.queryFrom_resolve hserver hc hurl hresolve
  refine ⟨fun hsharp => ?_, fun hsharp => ?_⟩
  · obtain ⟨before, hbefore⟩ := Panel.queryText_urlOf hsharp range
    have hend : range.pair <:+ Percent.encode (keepInQuery (isSpecialScheme a.scheme))
        (before ++ range.pair) := by
      rw [Percent.encode, List.flatMap_append]
      exact ⟨_, congrArg _ (encode_pair _ range).symm⟩
    rw [hbefore, Option.map_some] at hquery
    refine ⟨⟨_, hquery, hend⟩, ?_⟩
    simp only [Http.Request.of, Address.target, hquery, String.toList_ofList]
    exact (hend.trans (List.suffix_cons _ _)).trans (List.suffix_append _ _)
  · rw [hquery, Panel.queryText_urlOf_of_mem hsharp]

theorem range_sent_week : ∃ base a, base.scheme = "http".toList ∧
    Http.Client.resolve ⟨some base⟩ (Panel.urlOf "/render?target=a b" .week) = .ok a ∧
    ∃ query, a.query = some query ∧ TimeRange.week.pair <:+ query := by
  let base : Address := ⟨"http".toList, [], none, some (.domain "nav.example".toList), none,
    .rooted [[]], none, none⟩
  have hresolve : Http.Client.resolve ⟨some base⟩ (Panel.urlOf "/render?target=a b" .week) =
      .ok { base with
        path := .rooted ["render".toList], query := some "target=a%20b&timeframe=week".toList } :=
    rfl
  exact ⟨base, _, rfl, hresolve, ((range_sent (.inl rfl) hresolve).1 (by decide)).1⟩

/-- A colour in a target is enough for the range to be lost. -/
theorem range_lost : ¬ ∀ (text source : String) (range : TimeRange) (base a : Address),
    Http.Client.open? (some text) = .ok ⟨some base⟩ →
    base.scheme = "http".toList ∨ base.scheme = "https".toList →
    Http.Client.resolve ⟨some base⟩ (Panel.urlOf source range) = .ok a →
    ∃ query, a.query = some query ∧ range.pair <:+ query := by
  intro h
  let base : Address := ⟨"http".toList, [], none, some (.ipv6 [0, 0, 0, 0, 0, 0, 0, 1]), none,
    .rooted [[]], none, none⟩
  have hopen : Http.Client.open? (some "http://[::1]/") = .ok ⟨some base⟩ := rfl
  have hresolve : Http.Client.resolve ⟨some base⟩
      (Panel.urlOf "/render?target=color(x,\"#ff0000\")" .day) =
      .ok { base with
        path := .rooted ["render".toList], query := some "target=color(x,%22".toList,
        fragment := some "ff0000%22)&timeframe=day".toList } := rfl
  obtain ⟨query, hquery, hend⟩ := h _ _ _ _ _ hopen (.inl rfl) hresolve
  cases hquery
  exact absurd hend (by decide)

end GraphBoard
