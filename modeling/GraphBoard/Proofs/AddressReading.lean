import GraphBoard.Link.Query
import GraphBoard.Url.Parse
import Mathlib.Data.List.TakeDrop

set_option autoImplicit false

namespace GraphBoard.Url

open GraphBoard.Text

/-- The text that the query of an address is read from. -/
def queryText (cs : List Char) : Option (List Char) := Link.query? (cs.takeWhile (· != '#'))

def IsPlain (cs : List Char) : Prop := ∀ c ∈ cs, isPathEnd c = false

theorem IsPlain.drop {cs : List Char} (h : IsPlain cs) (n : Nat) : IsPlain (cs.drop n) :=
  fun c hc => h c (List.mem_of_mem_drop hc)

theorem isPathEnd_of_ne {c : Char} (hmark : c ≠ '?') (hsharp : c ≠ '#') : isPathEnd c = false := by
  simp [isPathEnd, hmark, hsharp]

theorem isPlain_singleton {c : Char} (h : isPathEnd c = false) : IsPlain [c] :=
  fun _ hd => List.mem_singleton.1 hd ▸ h

theorem isPlain_takeWhile {p : Char → Bool} (hp : ∀ c, p c = true → isPathEnd c = false)
    (cs : List Char) : IsPlain (cs.takeWhile p) :=
  fun c hc => hp c (List.all_eq_true.1 List.all_takeWhile c hc)

theorem queryText_append {front : List Char} (h : IsPlain front) (cs : List Char) :
    queryText (front ++ cs) = queryText cs := by
  have hne : ∀ c ∈ front, c ≠ '?' ∧ c ≠ '#' := fun c hc => by
    simpa [isPathEnd, not_or] using h c hc
  have hfront : ∀ c ∈ front, (c != '#') = true := fun c hc => by simp [(hne c hc).2]
  have hquery : ∀ c ∈ front, (c != '?') = true := fun c hc => by simp [(hne c hc).1]
  rw [queryText, List.takeWhile_append_of_pos hfront, Link.query?,
    List.dropWhile_append_of_pos hquery]
  rfl

theorem queryText_cons {c : Char} (h : isPathEnd c = false) (cs : List Char) :
    queryText (c :: cs) = queryText cs := queryText_append (isPlain_singleton h) cs

theorem drop_length_takeWhile (p : Char → Bool) (cs : List Char) :
    cs.drop (cs.takeWhile p).length = cs.dropWhile p :=
  (congrArg (List.drop _) List.takeWhile_append_dropWhile.symm).trans List.drop_left

theorem queryText_dropWhile {p : Char → Bool} (hp : ∀ c, p c = true → isPathEnd c = false)
    (cs : List Char) : queryText (cs.dropWhile p) = queryText cs := by
  have hcut := queryText_append (isPlain_takeWhile hp cs) (cs.dropWhile p)
  rwa [List.takeWhile_append_dropWhile, eq_comm] at hcut

theorem not_isPathEnd_of_isSlash {special : Bool} {c : Char} (h : isSlash special c = true) :
    isPathEnd c = false := by
  simp only [isSlash, Bool.or_eq_true, Bool.and_eq_true, beq_iff_eq] at h
  obtain rfl | ⟨-, rfl⟩ := h <;> decide

theorem readTail_query {special : Bool} {cs : List Char} (h : ∀ c ∈ cs.head?, isPathEnd c = true) :
    (readTail special cs).1 = (queryText cs).map (Percent.encode (keepInQuery special)) := by
  cases cs with
  | nil => rfl
  | cons c rest =>
    have hc : c = '?' ∨ c = '#' := by simpa [isPathEnd] using h c rfl
    obtain rfl | rfl := hc <;> rfl

theorem head?_dropWhile_not {p : Char → Bool} {cs : List Char} {c : Char}
    (h : c ∈ (cs.dropWhile (!p ·)).head?) : p c = true := by
  have hnot := List.head?_dropWhile_not (!p ·) cs
  rw [Option.mem_def.1 h] at hnot
  simpa using hnot

namespace Address

variable (a : Address)

theorem query_withReference (base : List (List Char)) (cs : List Char) :
    (a.withReference base cs).query =
      (queryText cs).map (Percent.encode (keepInQuery (isSpecialScheme a.scheme))) := by
  have hquery := queryText_dropWhile (p := (!isPathEnd ·)) (by simp) cs
  change (readTail _ (cs.drop (cs.takeWhile (!isPathEnd ·)).length)).1 = _
  rw [drop_length_takeWhile, readTail_query fun c => head?_dropWhile_not, hquery]

theorem scheme_withPathStart (cs : List Char) : (a.withPathStart cs).scheme = a.scheme := by
  unfold withPathStart
  split
  · rfl
  · split
    · rfl
    · split <;> rfl
  · split <;> rfl

theorem path_withPathStart (cs : List Char) :
    ∃ segments, (a.withPathStart cs).path = .rooted segments := by
  unfold withPathStart
  split
  · exact ⟨_, rfl⟩
  · split
    · exact ⟨_, rfl⟩
    · split <;> exact ⟨_, rfl⟩
  · split <;> exact ⟨_, rfl⟩

theorem query_withPathStart (h : a.query = none) (cs : List Char) :
    (a.withPathStart cs).query =
      (queryText cs).map (Percent.encode (keepInQuery (isSpecialScheme a.scheme))) := by
  have hslash : isPathEnd '/' = false := rfl
  have hback : isPathEnd '\\' = false := rfl
  unfold withPathStart
  split
  · rw [query_withReference, queryText_cons hslash]
  · rename_i c rest _
    split
    · rw [query_withReference]
      split
      · rename_i heq
        cases beq_iff_eq.1 heq
        rw [queryText_cons hback]
      · rfl
    · rename_i hspecial
      rw [Bool.not_eq_true] at hspecial
      split
      · rename_i hend
        change (readTail false (c :: rest)).1 = _
        have hhead : ∀ d ∈ (c :: rest).head?, isPathEnd d = true := by
          rintro d ⟨⟩
          exact hend
        rw [readTail_query hhead, hspecial]
      · rw [query_withReference, hspecial]
  · split
    · rw [query_withReference]
    · exact h

end Address

theorem IsPlain.server {authority : List Char} (h : IsPlain authority) :
    IsPlain (readCredentials authority).2.2 := by
  unfold readCredentials
  rw [List.span_eq_takeWhile_dropWhile]
  have hhost : IsPlain (authority.reverse.takeWhile (· != '@')).reverse := fun c hc =>
    h c (List.mem_reverse.1 ((List.takeWhile_prefix _).subset (List.mem_reverse.1 hc)))
  split
  · exact h
  · rename_i host at_sign userinfo heq
    obtain ⟨rfl, -⟩ := Prod.mk.inj heq
    dsimp only
    split <;> exact hhost

/-- An authority takes no character that ends a path. What is behind its port still counts. -/
theorem readAuthority_ok {scheme cs : List Char} {a : Address}
    (h : readAuthority scheme cs = .ok a) :
    ∃ user password host port authority rest front, cs = authority ++ rest ∧ IsPlain authority ∧
      IsPlain front ∧ a = ({ Address.ofScheme scheme with
        user, password, host := some host, port }).withPathStart (front ++ rest) := by
  let ends (c : Char) : Bool := isSlash (isSpecialScheme scheme) c || isPathEnd c
  let authority := cs.takeWhile (!ends ·)
  have hplain : IsPlain authority := isPlain_takeWhile (by simp [ends]) cs
  have hserver := hplain.server
  have hcut : cs = authority ++ cs.drop authority.length := by
    rw [drop_length_takeWhile]
    exact List.takeWhile_append_dropWhile.symm
  simp only [readAuthority, bind, Except.bind, pure, Except.pure, throw, throwThe,
    MonadExceptOf.throw] at h
  -- Two checks come before the host, which is read in one of two ways, and two more behind it.
  split at h
  · contradiction
  split at h
  · contradiction
  split at h
  all_goals
    split at h
    · contradiction
    split at h
    · contradiction
    split at h
    · contradiction
    cases h
    exact ⟨_, _, _, _, authority, _, _, hcut, hplain, (hserver.drop _).drop _, rfl⟩

def Address.QueryFrom (a : Address) (cs : List Char) : Prop :=
  a.query = (queryText cs).map (Percent.encode (keepInQuery (isSpecialScheme a.scheme)))

theorem queryFrom_readAuthority {scheme cs : List Char} {a : Address}
    (h : readAuthority scheme cs = .ok a) :
    a.scheme = scheme ∧ a.QueryFrom cs ∧ ∃ segments, a.path = .rooted segments := by
  obtain ⟨user, password, host, port, authority, rest, front, rfl, hauthority, hfront, rfl⟩ :=
    readAuthority_ok h
  refine ⟨Address.scheme_withPathStart _ _, ?_, Address.path_withPathStart _ _⟩
  rw [Address.QueryFrom, Address.scheme_withPathStart, queryText_append hauthority,
    Address.query_withPathStart _ rfl, queryText_append hfront]

theorem queryText_dropSlash (cs : List Char) : queryText (dropSlash cs) = queryText cs := by
  unfold dropSlash
  split
  · rename_i c rest
    split
    · rename_i hslash
      exact (queryText_cons (not_isPathEnd_of_isSlash hslash) rest).symm
    · rfl
  · rfl

theorem queryFrom_readFile {cs : List Char} {a : Address} (h : readFile none cs = .ok a) :
    a.scheme = fileScheme ∧ a.QueryFrom cs ∧ ∃ segments, a.path = .rooted segments := by
  have hbelow : ∀ {blank : Address}, readFile.below blank none cs = .ok a →
      a = blank.withReference [] (dropSlash cs) := by
    rintro blank ⟨⟩
    rfl
  have hread : ∀ (blank : Address) {rest : List Char}, queryText rest = queryText cs →
      (blank.withReference [] rest).QueryFrom cs := fun blank rest hrest => by
    rw [Address.QueryFrom, Address.query_withReference, hrest]
    rfl
  unfold readFile at h
  dsimp only at h
  split at h
  · rename_i first second rest
    split at h
    · rename_i hslashes
      simp only [Bool.and_eq_true] at hslashes
      have hrest : queryText rest = queryText (first :: second :: rest) := by
        rw [queryText_cons (not_isPathEnd_of_isSlash hslashes.1),
          queryText_cons (not_isPathEnd_of_isSlash hslashes.2)]
      split at h
      · cases h
        exact ⟨rfl, hread _ hrest, _, rfl⟩
      · cases hhost : readFileHost (rest.takeWhile fun c => !(isSlash true c || isPathEnd c)) with
        | error e =>
          rw [hhost] at h
          contradiction
        | ok host =>
          rw [hhost] at h
          cases h
          refine ⟨rfl, hread _ ?_, _, rfl⟩
          rw [queryText_dropSlash, drop_length_takeWhile, queryText_dropWhile (by simp), hrest]
    · cases hbelow h
      exact ⟨rfl, hread _ (queryText_dropSlash _), _, rfl⟩
  · cases hbelow h
    exact ⟨rfl, hread _ (queryText_dropSlash _), _, rfl⟩

theorem cutScheme_ok {cs scheme rest : List Char} (h : cutScheme cs = some (scheme, rest)) :
    ∃ name, cs = name ++ ':' :: rest ∧ IsPlain name := by
  have hplain :
      IsPlain (cs.takeWhile fun c => c.isAlphanum || c == '+' || c == '-' || c == '.') := by
    refine isPlain_takeWhile (fun c hc => ?_) cs
    refine isPathEnd_of_ne ?_ ?_ <;> rintro rfl <;> exact absurd hc (by decide)
  simp only [cutScheme] at h
  rw [drop_length_takeWhile] at h
  split at h
  · rename_i heq
    split at h
    · cases h
      exact ⟨_, heq ▸ List.takeWhile_append_dropWhile.symm, hplain⟩
    · contradiction
  · contradiction

theorem isServerScheme_of_web {scheme : List Char}
    (h : scheme = "http".toList ∨ scheme = "https".toList) : isServerScheme scheme = true := by
  obtain rfl | rfl := h <;> decide

theorem not_fileScheme {scheme : List Char} (h : isServerScheme scheme = true) :
    (scheme == fileScheme) = false := by
  rw [beq_eq_false_iff_ne]
  rintro rfl
  contradiction

theorem not_isSpecialScheme {scheme : List Char} (hfile : ¬ (scheme == fileScheme) = true)
    (hserver : ¬ isServerScheme scheme = true) : isSpecialScheme scheme = false := by
  simp_all [isSpecialScheme]

/-- Whatever kind of address a text is, its query is read from the same part. Only a text without
slashes behind its scheme gives a path that is not rooted. -/
theorem queryFrom_parse {url : String} {a : Address} (h : parse url = .ok a) :
    a.QueryFrom (significant url.toList) ∧
      (isServerScheme a.scheme = true → ∃ segments, a.path = .rooted segments) := by
  unfold parse at h
  split at h
  · contradiction
  · rename_i scheme rest hcut
    obtain ⟨name, hname, hplain⟩ := cutScheme_ok hcut
    have hrest : queryText (significant url.toList) = queryText rest := by
      rw [hname, queryText_append hplain, queryText_cons rfl]
    have hfrom : a.QueryFrom rest → a.QueryFrom (significant url.toList) := fun hquery => by
      rw [Address.QueryFrom, hrest]
      exact hquery
    split at h
    · obtain ⟨-, hquery, hpath⟩ := queryFrom_readFile h
      exact ⟨hfrom hquery, fun _ => hpath⟩
    · rename_i hfile
      split at h
      · obtain ⟨-, hquery, hpath⟩ := queryFrom_readAuthority h
        refine ⟨hfrom ?_, fun _ => hpath⟩
        rwa [Address.QueryFrom, queryText_dropWhile fun _ => not_isPathEnd_of_isSlash] at hquery
      · rename_i hserver
        split at h
        · obtain ⟨-, hquery, hpath⟩ := queryFrom_readAuthority h
          refine ⟨hfrom ?_, fun _ => hpath⟩
          rwa [Address.QueryFrom, queryText_cons rfl, queryText_cons rfl]
        · cases h
          refine ⟨hfrom ?_, fun _ => ⟨_, rfl⟩⟩
          rw [Address.QueryFrom, Address.query_withReference, queryText_cons rfl]
          rfl
        · cases h
          refine ⟨hfrom ?_, fun hweb => absurd hweb hserver⟩
          change (readTail false (rest.drop (rest.takeWhile (!isPathEnd ·)).length)).1 =
            (queryText rest).map (Percent.encode (keepInQuery (isSpecialScheme scheme)))
          rw [drop_length_takeWhile, readTail_query fun c => head?_dropWhile_not,
            queryText_dropWhile (by simp), not_isSpecialScheme hfile hserver]

theorem queryFrom_readRelative {base a : Address} {c : Char} {rest : List Char} (hc : c ≠ '#')
    (h : readRelative base (c :: rest) = .ok a) : a.QueryFrom (c :: rest) := by
  unfold readRelative at h
  split at h
  · contradiction
  · rename_i heq
    exact absurd (List.cons.inj heq).1 hc
  · rename_i heq
    cases heq
    cases h
    have hhead : ∀ d ∈ ('?' :: rest).head?, isPathEnd d = true := by
      rintro d ⟨⟩
      rfl
    exact readTail_query hhead
  · rename_i d rest' _ _ heq
    cases heq
    split at h
    · rename_i hslash
      have hrest : queryText (c :: rest) = queryText rest :=
        queryText_cons (not_isPathEnd_of_isSlash hslash) rest
      split at h
      · rename_i d after
        split at h
        · rename_i hsecond
          obtain ⟨-, hquery, -⟩ := queryFrom_readAuthority h
          rw [Address.QueryFrom, hrest, queryText_cons (not_isPathEnd_of_isSlash hsecond), hquery]
          split
          · rfl
          · rw [queryText_dropWhile fun _ => not_isPathEnd_of_isSlash]
        · cases h
          rw [Address.QueryFrom, Address.query_withReference, hrest]
          rfl
      · cases h
        rw [Address.QueryFrom, Address.query_withReference, hrest]
        rfl
    · cases h
      rw [Address.QueryFrom, Address.query_withReference]
      rfl

/-- A reference takes its query from the same part of its text, unless it is a fragment alone. -/
theorem queryFrom_join {base a : Address} {url : String}
    (hserver : isServerScheme base.scheme = true) {c : Char} {rest : List Char} (hc : c ≠ '#')
    (hurl : significant url.toList = c :: rest) (h : join base url = .ok a) :
    a.QueryFrom (c :: rest) := by
  simp only [join, hurl] at h
  split at h
  · rename_i heq
    exact absurd (List.cons.inj heq).1 hc
  · contradiction
  · rw [not_fileScheme hserver, if_neg Bool.false_ne_true] at h
    exact queryFrom_readRelative hc h

end GraphBoard.Url
