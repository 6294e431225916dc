import GraphBoard.Http.Client
import GraphBoard.Proofs.AddressReading
import GraphBoard.Proofs.GraphAddresses

set_option autoImplicit false

namespace GraphBoard

open GraphBoard.Text GraphBoard.Text.Percent

theorem Text.splitOnP_congr {α : Type} {p q : α → Bool} {cs : List α} (h : ∀ c ∈ cs, p c = q c) :
    cs.splitOnP p = cs.splitOnP q := by
  induction cs with
  | nil => rfl
  | cons c cs ih =>
    obtain ⟨hc, hrest⟩ := List.forall_mem_cons.1 h
    rw [List.splitOnP_cons_eq_if_modifyHead, List.splitOnP_cons_eq_if_modifyHead, hc, ih hrest]

theorem Text.flatMap_cons_eq_intercalate {α : Type} {sep : α} {ws : List (List α)} (h : ws ≠ []) :
    ws.flatMap (sep :: ·) = sep :: [sep].intercalate ws := by
  induction ws with
  | nil => contradiction
  | cons w ws ih =>
    cases ws with
    | nil => simp
    | cons v ws =>
      rw [List.flatMap_cons, ih (List.cons_ne_nil v ws), List.intercalate_cons_cons]
      simp

namespace Link

theorem encode_ne_nil {keep : Char → Bool} (hkeep : keep '%' = false) {cs : List Char}
    (h : cs ≠ []) : encode keep cs ≠ [] := by
  intro hnil
  have hbytes : Utf8.encode cs = Utf8.encode [] := by
    rw [← decode_encode hkeep, hnil]
    rfl
  exact h (Utf8.encode_injective hbytes)

theorem eq_cons_of_escapePath {cs rest : List Char} (h : escapePath cs = '/' :: rest) :
    ∃ more, cs = '/' :: more ∧ rest = escapePath more := by
  cases cs with
  | nil => contradiction
  | cons c cs =>
    by_cases hc : c = '/'
    · subst hc
      rw [escapePath_cons_slash] at h
      exact ⟨cs, rfl, (List.cons.inj h).2.symm⟩
    · exfalso
      have hsplit := splitOn_escapePath (c :: cs)
      have hcons : ('/' :: rest).splitOn '/' = [] :: rest.splitOn '/' :=
        List.splitOn_append_cons_self_of_not_mem List.not_mem_nil rest
      obtain ⟨w, ws, hws⟩ := List.exists_cons_of_ne_nil (List.splitOn_ne_nil '/' cs)
      rw [h, hcons, List.splitOn_cons_eq_if_modifyHead, if_neg (by simp [hc]), hws] at hsplit
      exact encode_ne_nil rfl (List.cons_ne_nil c w) (List.cons.inj hsplit).1.symm

end Link

namespace Url

theorem toNat_toLower (c : Char) :
    c.toLower.toNat = if 65 ≤ c.toNat ∧ c.toNat ≤ 90 then c.toNat + 32 else c.toNat := by
  have hval : c.val.toNat = c.toNat := rfl
  delta Char.toLower
  simp only [ge_iff_le, UInt32.le_iff_toNat_le]
  change Char.toNat (if h : 65 ≤ c.toNat ∧ c.toNat ≤ 90 then _ else _) = _
  split
  · change (c.val + 32).toNat = _
    rw [UInt32.toNat_add, hval]
    change (c.toNat + 32) % 4294967296 = _
    omega
  · rfl

/-- A character in front of the letters comes from no other by lower-casing. -/
theorem toLower_eq_iff {c d : Char} (h : d.toNat < 65) : c.toLower = d ↔ c = d := by
  rw [← Char.toNat_inj, ← Char.toNat_inj, toNat_toLower]
  split <;> omega

theorem toLower_eq_e {c : Char} : c.toLower = 'e' ↔ c = 'e' ∨ c = 'E' := by
  have he : 'e'.toNat = 101 := rfl
  have hE : 'E'.toNat = 69 := rfl
  rw [← Char.toNat_inj, ← Char.toNat_inj, ← Char.toNat_inj, toNat_toLower, he, hE]
  split <;> omega

theorem toLower_eq_dot {c : Char} : c.toLower = '.' ↔ c = '.' := toLower_eq_iff (by decide)

theorem toLower_eq_percent {c : Char} : c.toLower = '%' ↔ c = '%' := toLower_eq_iff (by decide)

theorem toLower_eq_two {c : Char} : c.toLower = '2' ↔ c = '2' := toLower_eq_iff (by decide)

theorem decode_of_isSingleDot {w : List Char} (h : isSingleDot w = true) :
    decode w = Utf8.encode ['.'] := by
  have hw : w = ['.'] ∨ ∃ e, w = ['%', '2', e] ∧ (e = 'e' ∨ e = 'E') := by
    simpa [isSingleDot, List.map_eq_cons_iff, toLower_eq_dot, toLower_eq_percent, toLower_eq_two,
      toLower_eq_e] using h
  obtain rfl | ⟨e, rfl, rfl | rfl⟩ := hw <;> decide

theorem decode_of_isDoubleDot {w : List Char} (h : isDoubleDot w = true) :
    decode w = Utf8.encode ['.', '.'] := by
  have hw : w = ['.', '.'] ∨ (∃ e, w = ['.', '%', '2', e] ∧ (e = 'e' ∨ e = 'E')) ∨
      (∃ e, w = ['%', '2', e, '.'] ∧ (e = 'e' ∨ e = 'E')) ∨
      ∃ e f, w = ['%', '2', e, '%', '2', f] ∧ (e = 'e' ∨ e = 'E') ∧ (f = 'e' ∨ f = 'E') := by
    simpa [isDoubleDot, List.map_eq_cons_iff, toLower_eq_dot, toLower_eq_percent, toLower_eq_two,
      toLower_eq_e] using h
  obtain rfl | ⟨e, rfl, rfl | rfl⟩ | ⟨e, rfl, rfl | rfl⟩ | ⟨e, f, rfl, rfl | rfl, rfl | rfl⟩ := hw
    <;> decide

def isDots (segment : List Char) : Bool := isSingleDot segment || isDoubleDot segment

/-- An encoded segment is a step only if it was one before. -/
theorem isDots_encode {segment : List Char} (hone : segment ≠ ['.']) (htwo : segment ≠ ['.', '.']) :
    isDots (encode isUnreserved segment) = false := by
  have hbytes : decode (encode isUnreserved segment) = Utf8.encode segment :=
    decode_encode rfl segment
  rw [isDots, Bool.or_eq_false_iff, ← Bool.not_eq_true, ← Bool.not_eq_true]
  refine ⟨fun h => hone ?_, fun h => htwo ?_⟩
  · exact Utf8.encode_injective (hbytes.symm.trans (decode_of_isSingleDot h))
  · exact Utf8.encode_injective (hbytes.symm.trans (decode_of_isDoubleDot h))

theorem descend_of_not_isDots {up segments : List (List Char)}
    (h : ∀ w ∈ segments, isDots w = false) :
    descend false up segments = (segments.map (encode keepInPath)).reverse ++ up := by
  induction segments generalizing up with
  | nil => rfl
  | cons w segments ih =>
    obtain ⟨hw, hrest⟩ := List.forall_mem_cons.1 h
    obtain ⟨hone, htwo⟩ := Bool.or_eq_false_iff.1 hw
    have hstore : storeSegment false up w = encode keepInPath w := rfl
    cases segments with
    | nil => simp [descend, hone, htwo, hstore]
    | cons v segments => simp [descend, hone, htwo, hstore, ih hrest]

theorem keepInPath_of_isWritten {c : Char} (h : isWritten c = true) : keepInPath c = true := by
  have htable : ∀ n < 0x80, isWritten (Char.ofNat n) = true → keepInPath (Char.ofNat n) = true := by
    decide
  have hc := htable c.toNat (bounds_of_isWritten h).2
  rw [Char.ofNat_toNat] at hc
  exact hc h

theorem readPath_escapePath {scheme cs : List Char} (hserver : isServerScheme scheme = true)
    (hone : ['.'] ∉ cs.splitOn '/') (htwo : ['.', '.'] ∉ cs.splitOn '/') :
    readPath scheme [] (Link.escapePath cs) =
      (cs.splitOn '/').map (encode isUnreserved) := by
  have hslash : ∀ c ∈ Link.escapePath cs, isSlash (isSpecialScheme scheme) c = (c == '/') := by
    intro c hc
    have hne : c ≠ '\\' := by
      rintro rfl
      obtain h | h := Link.mem_escapePath hc <;> exact absurd h (by decide)
    simp [isSlash, hne]
  have hdots : ∀ w ∈ (cs.splitOn '/').map (encode isUnreserved), isDots w = false := by
    intro w hw
    obtain ⟨segment, hsegment, rfl⟩ := List.mem_map.1 hw
    exact isDots_encode (fun h => hone (h ▸ hsegment)) (fun h => htwo (h ▸ hsegment))
  have hkeep : ∀ w ∈ (cs.splitOn '/').map (encode isUnreserved), encode keepInPath w = w := by
    intro w hw
    obtain ⟨segment, -, rfl⟩ := List.mem_map.1 hw
    exact encode_eq_self fun c hc => ⟨(bounds_of_isWritten (isWritten_of_mem_encode hc)).2,
      keepInPath_of_isWritten (isWritten_of_mem_encode hc)⟩
  simp only [readPath, not_fileScheme hserver, Bool.false_eq_true, if_false]
  rw [splitOnP_congr hslash, ← List.splitOn_eq_splitOnP, Link.splitOn_escapePath,
    List.reverse_nil, descend_of_not_isDots hdots, List.append_nil, List.reverse_reverse,
    List.map_congr_left hkeep, List.map_id']

def Address.SameServer (a b : Address) : Prop :=
  a.scheme = b.scheme ∧ a.user = b.user ∧ a.password = b.password ∧ a.host = b.host ∧
    a.port = b.port

theorem cutScheme_front {front more : List Char} (h : ':' ∉ front) :
    cutScheme (front ++ '?' :: more) = none := by
  cases hcut : cutScheme (front ++ '?' :: more) with
  | none => rfl
  | some cut =>
    exfalso
    obtain ⟨name, hname, hplain⟩ := cutScheme_ok hcut
    obtain ⟨ws, hfront, hcolon⟩ | ⟨ws, hfront, hmark⟩ := List.append_eq_append_iff.1 hname
    · cases ws with
      | nil => exact absurd (List.cons.inj hcolon).1 (by decide)
      | cons c ws =>
        obtain rfl : '?' = c := (List.cons.inj hcolon).1
        exact absurd (hplain '?' (by simp [hfront])) (by decide)
    · cases ws with
      | nil => exact absurd (List.cons.inj hmark).1 (by decide)
      | cons c ws =>
        obtain rfl : ':' = c := (List.cons.inj hmark).1
        exact h (by simp [hfront])

theorem readRelative_slash {base : Address} {rest : List Char}
    (hslash : ∀ d ∈ rest.head?, isSlash true d = false) :
    readRelative base ('/' :: rest) = .ok (base.withReference [] rest) := by
  cases rest with
  | nil => rfl
  | cons d rest =>
    change (if isSlash true d = true then _ else _) = _
    rw [hslash d rfl, if_neg Bool.false_ne_true]

theorem readRelative_of_not_isSlash (base : Address) {c : Char} (rest : List Char) (hc : c ≠ '#')
    (hslash : isSlash true c = false) :
    ∃ a, readRelative base (c :: rest) = .ok a ∧ a.SameServer base := by
  unfold readRelative
  split
  · contradiction
  · rename_i heq
    exact absurd (List.cons.inj heq).1 hc
  · exact ⟨_, rfl, rfl, rfl, rfl, rfl, rfl⟩
  · rename_i heq
    obtain ⟨rfl, rfl⟩ := List.cons.inj heq
    rw [hslash, if_neg Bool.false_ne_true]
    exact ⟨_, rfl, rfl, rfl, rfl, rfl, rfl⟩

theorem isPlain_escapePath (cs : List Char) : IsPlain (Link.escapePath cs) := by
  intro c hc
  refine isPathEnd_of_ne ?_ ?_ <;> rintro rfl <;>
    exact (Link.mem_escapePath hc).elim (by decide) (by decide)

theorem not_isSlash_of_mem_head {cs more : List Char} (h : ∀ rest, cs ≠ '/' :: rest) {c : Char}
    (hc : c ∈ (Link.escapePath cs ++ '?' :: more).head?) : c ≠ '#' ∧ isSlash true c = false := by
  cases hpath : Link.escapePath cs with
  | nil =>
    rw [hpath] at hc
    cases hc
    decide
  | cons d rest =>
    rw [hpath] at hc
    obtain rfl : d = c := Option.some.inj hc
    have hmem : d ∈ Link.escapePath cs := by simp [hpath]
    obtain rfl | hwritten := Link.mem_escapePath hmem
    · obtain ⟨more, hmore, -⟩ := Link.eq_cons_of_escapePath hpath
      exact absurd hmore (h more)
    · have hne : ∀ e : Char, isWritten e = false → d ≠ e := by
        rintro e he rfl
        rw [hwritten] at he
        contradiction
      refine ⟨hne _ (by decide), ?_⟩
      simp [isSlash, hne '/' (by decide), hne '\\' (by decide)]

/-- An escaped path with at most one slash in front leads nowhere but to the server of its page. -/
theorem readRelative_escapePath {base : Address} {cs more : List Char}
    (hslashes : ¬ "//".toList <+: cs) :
    ∃ a, readRelative base (Link.escapePath cs ++ '?' :: more) = .ok a ∧ a.SameServer base ∧
      ∀ rest, cs = '/' :: rest →
        a.path = .rooted (readPath base.scheme [] (Link.escapePath rest)) := by
  by_cases hroot : ∃ rest, cs = '/' :: rest
  · obtain ⟨rest, rfl⟩ := hroot
    have hrest : ∀ after, rest ≠ '/' :: after := by
      rintro after rfl
      exact hslashes ⟨after, rfl⟩
    rw [Link.escapePath_cons_slash, List.cons_append,
      readRelative_slash fun d hd => (not_isSlash_of_mem_head hrest hd).2]
    refine ⟨_, rfl, ⟨rfl, rfl, rfl, rfl, rfl⟩, ?_⟩
    rintro rest' heq
    obtain rfl := (List.cons.inj heq).2
    have hpath : (Link.escapePath rest ++ '?' :: more).takeWhile (!isPathEnd ·) =
        Link.escapePath rest := by
      rw [List.takeWhile_append_of_pos fun c hc => by rw [isPlain_escapePath rest c hc]; rfl]
      exact List.append_nil _
    change Path.rooted (readPath _ [] (List.takeWhile _ _)) = _
    rw [hpath]
  · cases htext : Link.escapePath cs ++ '?' :: more with
    | nil => simp at htext
    | cons c rest =>
      have hmem : c ∈ (Link.escapePath cs ++ '?' :: more).head? := by
        rw [htext]
        rfl
      obtain ⟨hmark, hslash⟩ := not_isSlash_of_mem_head (fun rest h => hroot ⟨rest, h⟩) hmem
      obtain ⟨a, ha, hserver⟩ := readRelative_of_not_isSlash base rest hmark hslash
      exact ⟨a, ha, hserver, fun rest h => absurd ⟨rest, h⟩ hroot⟩

theorem join_eq_readRelative {base : Address} {segments : List (List Char)} {url : String}
    (hpath : base.path = .rooted segments) (hserver : isServerScheme base.scheme = true)
    (hurl : (significant url.toList).head? ≠ some '#') :
    join base url = readRelative base (significant url.toList) := by
  simp only [join, hpath, not_fileScheme hserver]
  split
  · rename_i heq
    rw [heq] at hurl
    contradiction
  · contradiction
  · rfl

end Url

namespace Link

theorem front_of_relative {cs : List Char} (h : ∀ before after,
    cutAuthority (beforeQuery cs) = some (before, after) → isScheme before = false) :
    front cs = escapePath (beforeQuery cs) := by
  have hlength : originLength (cs.takeWhile (· != '?')) = 0 := originLength_eq_zero h
  simp only [front, Parts.ofChars, hlength, List.take_zero, List.drop_zero, List.nil_append]
  rfl

end Link

theorem Url.parse_escapePath {url : String} {cs more : List Char}
    (hurl : significant url.toList = Link.escapePath cs ++ '?' :: more) :
    parse url = .error .relativeWithoutBase := by
  have hcolon : ':' ∉ Link.escapePath cs := fun h =>
    (Link.mem_escapePath h).elim (by decide) (by decide)
  rw [parse, hurl, cutScheme_front hcolon]

theorem Http.Client.resolve_eq_join (base : Url.Address) {url : String}
    (h : Url.parse url = .error .relativeWithoutBase) :
    Http.Client.resolve ⟨some base⟩ url =
      (Url.join base url).mapError fun e => Http.refuse url e.message := by
  rw [Http.Client.resolve, h]

theorem Http.Client.resolve_escapePath {base : Url.Address} {segments : List (List Char)}
    (hpath : base.path = .rooted segments) (hserver : Url.isServerScheme base.scheme = true)
    {url : String} {cs more : List Char}
    (hurl : Url.significant url.toList = Link.escapePath cs ++ '?' :: more) :
    Http.Client.resolve ⟨some base⟩ url =
      (Url.readRelative base (Link.escapePath cs ++ '?' :: more)).mapError
        fun e => Http.refuse url e.message := by
  have hhead : (Url.significant url.toList).head? ≠ some '#' := by
    rw [hurl]
    cases hcs : Link.escapePath cs with
    | nil => simp
    | cons c rest =>
      rintro ⟨⟩
      exact (Link.mem_escapePath (hcs ▸ List.mem_cons_self)).elim (by decide) (by decide)
  rw [resolve_eq_join base (Url.parse_escapePath hurl),
    Url.join_eq_readRelative hpath hserver hhead, hurl]

open Url

theorem resolve_relative {base : Address} {segments : List (List Char)}
    (hpath : base.path = .rooted segments) (hserver : isServerScheme base.scheme = true)
    {source : String} (hslashes : ¬ "//".toList <+: source.toList)
    (hrelative : ∀ before after,
      Link.cutAuthority (Link.beforeQuery source.toList) = some (before, after) →
        Link.isScheme before = false) (range : TimeRange) :
    ∃ a, Http.Client.resolve ⟨some base⟩ (Panel.urlOf source range) = .ok a ∧ a.SameServer base ∧
      ∀ rest, Link.beforeQuery source.toList = '/' :: rest →
        a.path = .rooted (readPath base.scheme [] (Link.escapePath rest)) := by
  have hbefore : ¬ "//".toList <+: Link.beforeQuery source.toList := fun h =>
    hslashes (h.trans (List.takeWhile_prefix _))
  have hkept : ∀ c ∈ Link.escapePath (Link.beforeQuery source.toList), 0x20 < c.toNat := fun c hc =>
    (Link.mem_escapePath hc).elim (fun h => h ▸ by decide) fun h => (bounds_of_isWritten h).1
  obtain ⟨mark, -, hurl⟩ := significant_urlOf_cut source range
  rw [Link.front_of_relative hrelative, filter_isKept hkept] at hurl
  obtain ⟨a, ha, hsame, hroot⟩ := readRelative_escapePath hbefore
  refine ⟨a, ?_, hsame, hroot⟩
  rw [Http.Client.resolve_escapePath hpath hserver hurl, ha]
  rfl

/-- A source without a scheme that does not open with two slashes is asked for on the server of the
base, whatever it is made of. Below the root it has the path that was configured. -/
theorem relative_on_server {text source : String} {base : Address} {range : TimeRange}
    (hopen : Http.Client.open? (some text) = .ok ⟨some base⟩)
    (hweb : base.scheme = "http".toList ∨ base.scheme = "https".toList)
    (hslashes : ¬ "//".toList <+: source.toList)
    (hrelative : ∀ before after,
      Link.cutAuthority (Link.beforeQuery source.toList) = some (before, after) →
        Link.isScheme before = false) :
    ∃ a, Http.Client.resolve ⟨some base⟩ (Panel.urlOf source range) = .ok a ∧ a.SameServer base ∧
      ∀ rest, Link.beforeQuery source.toList = '/' :: rest →
        ['.'] ∉ rest.splitOn '/' → ['.', '.'] ∉ rest.splitOn '/' →
        a.path.toChars = Link.escapePath (Link.beforeQuery source.toList) ∧
          ∃ segments, a.path = .rooted segments ∧
            segments.map decode = (rest.splitOn '/').map Utf8.encode := by
  have hserver : isServerScheme base.scheme = true := isServerScheme_of_web hweb
  have hbase : parse text = .ok base := by
    simp only [Http.Client.open?] at hopen
    split at hopen
    · cases hopen
      assumption
    · contradiction
  obtain ⟨segments, hpath⟩ := (queryFrom_parse hbase).2 hserver
  obtain ⟨a, ha, hsame, hroot⟩ := resolve_relative hpath hserver hslashes hrelative range
  refine ⟨a, ha, hsame, fun rest hrest hone htwo => ?_⟩
  have hsegments := hroot rest hrest
  rw [readPath_escapePath hserver hone htwo] at hsegments
  have hne : (rest.splitOn '/').map (encode isUnreserved) ≠ [] := by
    rw [ne_eq, List.map_eq_nil_iff]
    exact List.splitOn_ne_nil '/' rest
  refine ⟨?_, _, hsegments, ?_⟩
  · rw [hsegments, hrest, Link.escapePath_cons_slash]
    exact flatMap_cons_eq_intercalate hne
  · rw [List.map_map]
    exact List.map_congr_left fun segment _ => decode_encode rfl segment

theorem relative_on_server_colon :
    ∃ base a, Http.Client.open? (some "http://[::1]:8080/graphs/") = .ok ⟨some base⟩ ∧
      Http.Client.resolve ⟨some base⟩ (Panel.urlOf "/render/a b://x?target=a" .day) = .ok a ∧
      a.SameServer base ∧ a.path.toChars = "/render/a%20b%3A//x".toList := by
  let base : Address := ⟨"http".toList, [], none, some (.ipv6 [0, 0, 0, 0, 0, 0, 0, 1]), some 8080,
    .rooted ["graphs".toList, []], none, none⟩
  have hopen : Http.Client.open? (some "http://[::1]:8080/graphs/") = .ok ⟨some base⟩ := rfl
  have hcut : Link.cutAuthority (Link.beforeQuery "/render/a b://x?target=a".toList) =
      some ("/render/a b".toList, "x".toList) := by decide
  obtain ⟨a, ha, hsame, hpath⟩ := @relative_on_server _ "/render/a b://x?target=a" base .day hopen
    (.inl rfl) (by decide) (by rw [hcut]; rintro before after ⟨⟩; decide)
  have hchars := (hpath "render/a b://x".toList (by decide) (by decide) (by decide)).1
  exact ⟨base, a, hopen, ha, hsame, hchars.trans (by decide)⟩

end GraphBoard
