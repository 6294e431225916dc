import GraphBoard.Proofs.RelativeAddresses

set_option autoImplicit false

namespace GraphBoard

open GraphBoard.Text GraphBoard.Text.Percent

def Panel.OpensAtRoot (source : String) : Prop :=
  "/".toList <+: source.toList ∧ ¬ "//".toList <+: source.toList

instance (source : String) : Decidable (Panel.OpensAtRoot source) :=
  inferInstanceAs (Decidable (_ ∧ _))

namespace Url

/-- Whether a text reads as a scheme without servers and something without a slash in front. -/
def opensFlat (cs : List Char) : Bool :=
  match cutScheme cs with
  | some (scheme, rest) => !isSpecialScheme scheme && rest.head? != some '/'
  | none => false

theorem path_parse {text : String} {a : Address} (h : parse text = .ok a) :
    (opensFlat (significant text.toList) = true → ∃ flat, a.path = .flat flat) ∧
      (opensFlat (significant text.toList) = false → ∃ segments, a.path = .rooted segments) := by
  unfold parse at h
  split at h
  · contradiction
  · rename_i scheme rest hcut
    have hflat : opensFlat (significant text.toList) =
        (!isSpecialScheme scheme && rest.head? != some '/') := by
      rw [opensFlat, hcut]
    rw [hflat]
    split at h
    · rename_i hfile
      obtain ⟨-, -, hrooted⟩ := queryFrom_readFile h
      exact ⟨by simp [isSpecialScheme, hfile], fun _ => hrooted⟩
    · rename_i hfile
      split at h
      · rename_i hserver
        obtain ⟨-, -, hrooted⟩ := queryFrom_readAuthority h
        exact ⟨by simp [isSpecialScheme, hserver], fun _ => hrooted⟩
      · rename_i hserver
        -- Without a server or a file, what follows the colon decides.
        split at h
        · obtain ⟨-, -, hrooted⟩ := queryFrom_readAuthority h
          exact ⟨by simp, fun _ => hrooted⟩
        · cases h
          exact ⟨by simp, fun _ => ⟨_, rfl⟩⟩
        · rename_i hslash
          cases h
          have hhead : rest.head? ≠ some '/' := by
            rintro hhead
            obtain ⟨after, rfl⟩ := List.head?_eq_some_iff.1 hhead
            exact hslash after rfl
          refine ⟨fun _ => ⟨_, rfl⟩, fun hnot => ?_⟩
          simp [not_isSpecialScheme hfile hserver, hhead] at hnot

theorem readFile_slash (base : Address) {rest : List Char}
    (hslash : ∀ d ∈ rest.head?, isSlash true d = false) :
    ∃ a, readFile (some base) ('/' :: rest) = .ok a := by
  have hbelow : ∀ blank, ∃ a, readFile.below blank (some base) ('/' :: rest) = .ok a := by
    intro blank
    simp only [readFile.below]
    rw [if_pos (by decide)]
    split
    · exact ⟨_, rfl⟩
    · split <;> exact ⟨_, rfl⟩
    · exact ⟨_, rfl⟩
  cases rest with
  | nil => exact hbelow _
  | cons d rest =>
    have hsecond : (isSlash true '/' && isSlash true d) = false := by
      rw [hslash d rfl, Bool.and_false]
    rw [readFile, hsecond]
    exact hbelow _

theorem join_rooted {base : Address} {segments : List (List Char)}
    (hpath : base.path = .rooted segments) {url : String} {rest : List Char}
    (hurl : significant url.toList = '/' :: rest)
    (hslash : ∀ d ∈ rest.head?, isSlash true d = false) : ∃ a, join base url = .ok a := by
  have hjoin : join base url = if base.scheme == fileScheme then
      readFile (some base) ('/' :: rest) else readRelative base ('/' :: rest) := by
    simp only [join]
    rw [hpath, hurl]
    rfl
  rw [hjoin]
  split
  · exact readFile_slash base hslash
  · exact ⟨_, readRelative_slash hslash⟩

theorem join_flat {base : Address} {flat : List Char} (hpath : base.path = .flat flat)
    {url : String} {rest : List Char} (hurl : significant url.toList = '/' :: rest) :
    join base url = .error .relativeToFlatBase := by
  simp only [join]
  rw [hpath, hurl]
  rfl

theorem significant_urlOf_root {source : String} (h : Panel.OpensAtRoot source)
    (range : TimeRange) : ∃ rest more, (∀ after, rest ≠ '/' :: after) ∧
      significant (Panel.urlOf source range).toList =
        Link.escapePath ('/' :: rest) ++ '?' :: more := by
  obtain ⟨⟨rest, hsource⟩, hslashes⟩ := h
  have hbefore : Link.beforeQuery source.toList = '/' :: Link.beforeQuery rest := by
    rw [← hsource]
    rfl
  -- A scheme would stand in front of the first slash, where there is nothing.
  have hrelative : ∀ before after,
      Link.cutAuthority (Link.beforeQuery source.toList) = some (before, after) →
        Link.isScheme before = false := by
    intro before after hcut
    have hslash := Link.eq_of_cutAuthority hcut
    rw [hbefore] at hslash
    cases before with
    | nil => rfl
    | cons c before =>
      obtain rfl := (List.cons.inj hslash).1
      rfl
  have hkept : ∀ c ∈ Link.escapePath ('/' :: Link.beforeQuery rest), 0x20 < c.toNat :=
    fun c hc => (Link.mem_escapePath hc).elim (fun h => h ▸ by decide)
      fun h => (bounds_of_isWritten h).1
  obtain ⟨mark, -, hurl⟩ := significant_urlOf_cut source range
  rw [Link.front_of_relative hrelative, hbefore, filter_isKept hkept] at hurl
  refine ⟨Link.beforeQuery rest, _, fun after hafter => ?_, hurl⟩
  obtain ⟨more, hmore⟩ : Link.beforeQuery rest <+: rest := List.takeWhile_prefix _
  refine hslashes ⟨after ++ more, ?_⟩
  rw [← hsource, ← hmore, hafter]
  rfl

/-- What reading a source at the root of a server comes to is decided by the base alone. -/
theorem join_urlOf_root {source : String} (h : Panel.OpensAtRoot source) (range : TimeRange)
    (base : Address) :
    (∀ segments, base.path = .rooted segments → ∃ a, join base (Panel.urlOf source range) = .ok a) ∧
      ∀ flat, base.path = .flat flat →
        join base (Panel.urlOf source range) = .error .relativeToFlatBase := by
  obtain ⟨rest, more, hrest, hurl⟩ := significant_urlOf_root h range
  rw [Link.escapePath_cons_slash, List.cons_append] at hurl
  have hslash : ∀ d ∈ (Link.escapePath rest ++ '?' :: more).head?, isSlash true d = false :=
    fun d hd => (not_isSlash_of_mem_head hrest hd).2
  exact ⟨fun _ hpath => join_rooted hpath hurl hslash, fun _ hpath => join_flat hpath hurl⟩

end Url

open Url

theorem Http.Client.open?_ok {text : String} {client : Http.Client}
    (h : Http.Client.open? (some text) = .ok client) :
    ∃ base, client = ⟨some base⟩ ∧ Url.parse text = .ok base := by
  simp only [Http.Client.open?] at h
  split at h
  · cases h
    exact ⟨_, rfl, by assumption⟩
  · contradiction

/-- An accepted base serves every source at the root of its server or refuses every one of them, and
how it opens says which. -/
theorem served_unless_flat {text : String} {client : Http.Client}
    (hopen : Http.Client.open? (some text) = .ok client) {source : String}
    (hroot : Panel.OpensAtRoot source) (range : TimeRange) :
    (opensFlat (significant text.toList) = false →
        ∃ a, client.resolve (Panel.urlOf source range) = .ok a) ∧
      (opensFlat (significant text.toList) = true →
        client.resolve (Panel.urlOf source range) =
          .error (Http.refuse (Panel.urlOf source range)
            "relative URL with a cannot-be-a-base base")) := by
  obtain ⟨base, rfl, hbase⟩ := Http.Client.open?_ok hopen
  obtain ⟨hflat, hrooted⟩ := path_parse hbase
  obtain ⟨hserved, hrefused⟩ := join_urlOf_root hroot range base
  obtain ⟨rest, more, -, hurl⟩ := significant_urlOf_root hroot range
  rw [Http.Client.resolve_eq_join base (parse_escapePath hurl)]
  refine ⟨fun h => ?_, fun h => ?_⟩
  · obtain ⟨segments, hpath⟩ := hrooted h
    obtain ⟨a, ha⟩ := hserved segments hpath
    exact ⟨a, by rw [ha]; rfl⟩
  · obtain ⟨flat, hpath⟩ := hflat h
    rw [hrefused flat hpath]
    rfl

theorem served_unless_flat_without_slash :
    (∃ client a, Http.Client.open? (some "unix:/run") = .ok client ∧
      client.resolve (Panel.urlOf "/render" .day) = .ok a) ∧
    ∃ client, Http.Client.open? (some "unix:run") = .ok client ∧
      client.resolve (Panel.urlOf "/render" .day) = .error (.invalidUrl
        "/render?timeframe=day: relative URL with a cannot-be-a-base base") := by
  have hroot : Panel.OpensAtRoot "/render" := by decide
  obtain ⟨a, ha⟩ := (@served_unless_flat "unix:/run" _ rfl "/render" hroot .day).1 (by decide)
  refine ⟨⟨_, a, rfl, ha⟩, _, rfl, ?_⟩
  exact (@served_unless_flat "unix:run" _ rfl "/render" hroot .day).2 (by decide)

/-- A host and a port are accepted as a base that serves nothing. -/
theorem accepted_and_refusing : ¬ ∀ (text source : String) (range : TimeRange)
    (client : Http.Client), Http.Client.open? (some text) = .ok client →
      Panel.OpensAtRoot source → ∃ a, client.resolve (Panel.urlOf source range) = .ok a := by
  intro h
  obtain ⟨a, ha⟩ := h "localhost:8080" "/render" .day _ rfl (by decide)
  have hrefused : Http.Client.resolve
      ⟨some { Address.ofScheme "localhost".toList with path := .flat "8080".toList }⟩
      (Panel.urlOf "/render" .day) = .error (.invalidUrl
        "/render?timeframe=day: relative URL with a cannot-be-a-base base") := by rfl
  exact absurd (hrefused.symm.trans ha) (by simp)

end GraphBoard
