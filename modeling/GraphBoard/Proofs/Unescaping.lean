import GraphBoard.Proofs.GraphAddresses

set_option autoImplicit false

namespace GraphBoard

open GraphBoard.Text

namespace Text

structure IsFirstCut (mark cs before after : List Char) : Prop where
  eq : cs = before ++ mark ++ after
  first : ∀ front back, cs = front ++ mark ++ back → before.length ≤ front.length

theorem IsFirstCut.unique {mark cs before after front back : List Char}
    (h : IsFirstCut mark cs before after) (hother : IsFirstCut mark cs front back) :
    before = front ∧ after = back := by
  have hlength : before.length = front.length :=
    Nat.le_antisymm (h.first _ _ hother.eq) (hother.first _ _ h.eq)
  have heq := h.eq.symm.trans hother.eq
  simp only [List.append_assoc] at heq
  obtain ⟨hbefore, hrest⟩ := List.append_inj heq hlength
  exact ⟨hbefore, List.append_cancel_left hrest⟩

end Text

namespace Text.Percent

/-- Texts of unreserved characters, slashes and percent signs with two hexadecimal digits. -/
inductive Escaped : List Char → Prop where
  | nil : Escaped []
  | char {c : Char} {rest : List Char} (plain : isUnreserved c = true ∨ c = '/') :
      Escaped rest → Escaped (c :: rest)
  | byte {high low : Char} {rest : List Char} (high_digit : (hexValue? high).isSome)
      (low_digit : (hexValue? low).isSome) : Escaped rest → Escaped ('%' :: high :: low :: rest)

theorem Escaped.append {cs ds : List Char} (h : Escaped cs) (hds : Escaped ds) :
    Escaped (cs ++ ds) := by
  induction h with
  | nil => exact hds
  | char plain _ ih => exact .char plain ih
  | byte high_digit low_digit _ ih => exact .byte high_digit low_digit ih

theorem escaped_triplet (b : UInt8) : Escaped (triplet b) := by
  have hb : b.toNat < 256 := b.toNat_lt
  have hdigit : ∀ n < 16, (hexValue? (hexDigit n)).isSome := fun n hn => by
    rw [hexValue?_hexDigit hn]
    rfl
  exact .byte (hdigit _ (by omega)) (hdigit _ (by omega)) .nil

theorem escaped_flatMap {α : Type} {f : α → List Char} (h : ∀ a, Escaped (f a)) (as : List α) :
    Escaped (as.flatMap f) := by
  induction as with
  | nil => exact .nil
  | cons a as ih => exact (h a).append ih

theorem escaped_encode (cs : List Char) : Escaped (encode isUnreserved cs) := by
  refine escaped_flatMap (fun c => ?_) cs
  unfold encodeChar
  split
  · rename_i hkeep
    exact .char (.inl (Bool.and_eq_true_iff.1 hkeep).2) .nil
  · exact escaped_flatMap escaped_triplet _

theorem escaped_intercalate {ws : List (List Char)} (h : ∀ w ∈ ws, Escaped w) :
    Escaped (['/'].intercalate ws) := by
  induction ws with
  | nil => exact .nil
  | cons w ws ih =>
    obtain ⟨hw, hrest⟩ := List.forall_mem_cons.1 h
    cases ws with
    | nil =>
      rw [List.intercalate_singleton]
      exact hw
    | cons v ws =>
      rw [List.intercalate_cons_cons, List.append_assoc]
      exact hw.append (.char (.inr rfl) (ih hrest))

theorem encode_injective {keep : Char → Bool} (hkeep : keep '%' = false) :
    Function.Injective (encode keep) := by
  intro cs ds h
  have hbytes := congrArg decode h
  rw [decode_encode hkeep, decode_encode hkeep] at hbytes
  exact Utf8.encode_injective hbytes

end Text.Percent

namespace Link

open Text.Percent

theorem escaped_escapePath (cs : List Char) : Escaped (escapePath cs) := by
  refine escaped_intercalate fun w hw => ?_
  obtain ⟨segment, -, rfl⟩ := List.mem_map.1 hw
  exact escaped_encode segment

theorem escapePath_injective : Function.Injective escapePath := by
  intro cs ds h
  have hsegments := congrArg (List.splitOn '/') h
  rw [splitOn_escapePath, splitOn_escapePath] at hsegments
  have hsplit := (List.map_inj_right fun _ _ heq => encode_injective rfl heq).1 hsegments
  calc cs = ['/'].intercalate (cs.splitOn '/') := (List.intercalate_splitOn '/').symm
    _ = ['/'].intercalate (ds.splitOn '/') := by rw [hsplit]
    _ = ds := List.intercalate_splitOn '/'

theorem cutAuthority_cons {c : Char} {cs : List Char} (h : ¬ "://".toList <+: c :: cs) :
    cutAuthority (c :: cs) = (cutAuthority cs).map fun cut => (c :: cut.1, cut.2) := by
  rw [cutAuthority.eq_def]
  split
  · contradiction
  · rename_i rest heq
    exact absurd ⟨rest, heq.symm⟩ h
  · rename_i heq
    obtain ⟨rfl, rfl⟩ := List.cons.inj heq
    rfl

theorem isSome_cutAuthority (before after : List Char) :
    (cutAuthority (before ++ "://".toList ++ after)).isSome := by
  induction before with
  | nil => rfl
  | cons c before ih =>
    by_cases hmark : "://".toList <+: c :: (before ++ "://".toList ++ after)
    · obtain ⟨rest, hrest⟩ := hmark
      change (cutAuthority (c :: (before ++ "://".toList ++ after))).isSome
      rw [← hrest]
      rfl
    · change (cutAuthority (c :: (before ++ "://".toList ++ after))).isSome
      rw [cutAuthority_cons hmark, Option.isSome_map]
      exact ih

theorem isFirstCut_of_cutAuthority {cs before after : List Char}
    (h : cutAuthority cs = some (before, after)) : IsFirstCut "://".toList cs before after := by
  refine ⟨eq_of_cutAuthority h, ?_⟩
  induction cs generalizing before with
  | nil => contradiction
  | cons c cs ih =>
    intro front back heq
    by_cases hmark : "://".toList <+: c :: cs
    · obtain ⟨rest, hrest⟩ := hmark
      have hcut : cutAuthority (c :: cs) = some ([], rest) := by
        rw [← hrest]
        rfl
      rw [hcut] at h
      cases h
      exact Nat.zero_le _
    · rw [cutAuthority_cons hmark] at h
      obtain ⟨⟨inner, rest⟩, hcut, hpair⟩ := Option.map_eq_some_iff.1 h
      obtain ⟨rfl, rfl⟩ := Prod.mk.inj hpair
      cases front with
      | nil => exact absurd ⟨back, heq.symm⟩ hmark
      | cons d front => exact Nat.succ_le_succ (ih hcut front back (List.cons.inj heq).2)

theorem cutAuthority_eq_some_iff {cs before after : List Char} :
    cutAuthority cs = some (before, after) ↔ IsFirstCut "://".toList cs before after := by
  refine ⟨isFirstCut_of_cutAuthority, fun h => ?_⟩
  obtain ⟨⟨front, back⟩, hcut⟩ := Option.isSome_iff_exists.1 (isSome_cutAuthority before after)
  rw [← h.eq] at hcut
  obtain ⟨rfl, rfl⟩ := (isFirstCut_of_cutAuthority hcut).unique h
  exact hcut

section
variable {scheme authority path : List Char}

theorem colon_not_mem_of_isScheme (h : isScheme scheme = true) : ':' ∉ scheme := by
  cases scheme with
  | nil => contradiction
  | cons c scheme =>
    obtain ⟨hc, hrest⟩ := Bool.and_eq_true_iff.1 h
    intro hmem
    obtain rfl | hmem := List.mem_cons.1 hmem
    · exact absurd hc (by decide)
    · exact absurd (List.all_eq_true.1 hrest _ hmem) (by decide)

theorem isFirstCut_of_isScheme (h : isScheme scheme = true) (after : List Char) :
    IsFirstCut "://".toList (scheme ++ "://".toList ++ after) scheme after := by
  refine ⟨rfl, fun front back heq => ?_⟩
  by_contra hlt
  -- An earlier mark would put its colon into the scheme.
  have hcolon : ':' ∈ scheme := by
    have hget : (scheme ++ "://".toList ++ after)[front.length]? = some ':' := by
      rw [heq]
      simp
    rw [List.append_assoc, List.getElem?_append_left (by omega)] at hget
    exact List.mem_of_getElem? hget
  exact colon_not_mem_of_isScheme h hcolon

theorem originLength_of_isScheme (h : isScheme scheme = true) (hauthority : '/' ∉ authority)
    (hpath : ∀ c ∈ path.head?, c = '/') :
    originLength (scheme ++ "://".toList ++ authority ++ path) =
      (scheme ++ "://".toList ++ authority).length := by
  have hcut := cutAuthority_eq_some_iff.2 (isFirstCut_of_isScheme h (authority ++ path))
  rw [List.append_assoc _ authority, originLength, hcut]
  simp only [h, takeWhile_mark hauthority hpath, if_true, List.length_append]
  rfl

end

namespace Parts

theorem ofChars_cases (cs : List Char) :
    (∃ scheme authority, isScheme scheme = true ∧ '/' ∉ authority ∧
      (ofChars cs).origin = scheme ++ "://".toList ++ authority ∧
      (∀ c ∈ (ofChars cs).path.head?, c = '/') ∧
      IsFirstCut "://".toList (beforeQuery cs) scheme (authority ++ (ofChars cs).path)) ∨
    ((∀ scheme after, IsFirstCut "://".toList (beforeQuery cs) scheme after →
        isScheme scheme = false) ∧
      (ofChars cs).origin = [] ∧ (ofChars cs).path = beforeQuery cs) := by
  have hparts : (ofChars cs).origin = (beforeQuery cs).take (originLength (beforeQuery cs)) ∧
      (ofChars cs).path = (beforeQuery cs).drop (originLength (beforeQuery cs)) := ⟨rfl, rfl⟩
  by_cases hscheme : ∃ scheme after,
      IsFirstCut "://".toList (beforeQuery cs) scheme after ∧ isScheme scheme = true
  · obtain ⟨scheme, after, hcut, hscheme⟩ := hscheme
    have hafter : after.takeWhile (· != '/') ++ after.dropWhile (· != '/') = after :=
      List.takeWhile_append_dropWhile
    have hauthority : '/' ∉ after.takeWhile (· != '/') := not_mem_takeWhile_mark '/' after
    have hpath : ∀ c ∈ (after.dropWhile (· != '/')).head?, c = '/' := fun c hc =>
      eq_of_mem_head_dropWhile_mark hc
    have hlength := originLength_of_isScheme hscheme hauthority hpath
    have hhead : beforeQuery cs = scheme ++ "://".toList ++ after.takeWhile (· != '/') ++
        after.dropWhile (· != '/') := by
      rw [List.append_assoc _ (after.takeWhile _), hafter]
      exact hcut.eq
    rw [← hhead] at hlength
    have horigin : (ofChars cs).origin = scheme ++ "://".toList ++ after.takeWhile (· != '/') := by
      rw [hparts.1, hlength, hhead, List.take_left]
    have hrest : (ofChars cs).path = after.dropWhile (· != '/') := by
      rw [hparts.2, hlength, hhead, List.drop_left]
    rw [horigin, hrest]
    refine .inl ⟨scheme, _, hscheme, hauthority, rfl, hpath, ?_⟩
    rwa [hafter]
  · have hnone : ∀ scheme after, IsFirstCut "://".toList (beforeQuery cs) scheme after →
        isScheme scheme = false := fun scheme after hcut => by
      rw [← Bool.not_eq_true]
      exact fun h => hscheme ⟨scheme, after, hcut, h⟩
    have hlength : originLength (beforeQuery cs) = 0 :=
      originLength_eq_zero fun scheme after hcut =>
        hnone scheme after (cutAuthority_eq_some_iff.1 hcut)
    rw [hparts.1, hparts.2, hlength]
    exact .inr ⟨hnone, rfl, rfl⟩

end Parts

theorem originLength_front (cs : List Char) :
    originLength (front cs) = (Parts.ofChars cs).origin.length := by
  obtain ⟨scheme, authority, hscheme, hauthority, horigin, hpath, -⟩ | ⟨-, horigin, -⟩ :=
    Parts.ofChars_cases cs
  · -- The authority still ends where it did: an escaped path is empty or starts with its slash.
    have hescaped : ∀ c ∈ (escapePath (Parts.ofChars cs).path).head?, c = '/' := by
      cases hrest : (Parts.ofChars cs).path with
      | nil => simp [escapePath, encode]
      | cons c rest =>
        rw [hrest] at hpath
        obtain rfl := hpath c rfl
        simp [escapePath_cons_slash]
    rw [front, horigin]
    exact originLength_of_isScheme hscheme hauthority hescaped
  · rw [front, horigin]
    refine originLength_eq_zero fun scheme after hcut => ?_
    -- No path gets a scheme by being escaped, for no colon is left in it.
    have hcolon : ':' ∈ escapePath (Parts.ofChars cs).path := by
      have heq := eq_of_cutAuthority hcut
      rw [List.nil_append] at heq
      rw [heq]
      simp
    exact (mem_escapePath hcolon).elim (fun h => absurd h (by decide)) fun h =>
      absurd h (by decide)

/-- An escaped address has the parts of the address, but for the path. -/
theorem ofChars_escapeChars (cs : List Char) : Parts.ofChars (escapeChars cs) =
    { Parts.ofChars cs with path := escapePath (Parts.ofChars cs).path } := by
  have hmark : ∀ c ∈ (Parts.ofChars cs).query.head?, c = '?' := fun c hc =>
    eq_of_mem_head_dropWhile_mark hc
  have hhead : (escapeChars cs).takeWhile (· != '?') = front cs :=
    takeWhile_mark (mark_not_mem_front cs) hmark
  have hquery : (escapeChars cs).dropWhile (· != '?') = (Parts.ofChars cs).query :=
    dropWhile_mark (mark_not_mem_front cs) hmark
  rw [Parts.ofChars, hhead, hquery, originLength_front, front, List.take_left, List.drop_left]

theorem escapeChars_injective : Function.Injective escapeChars := by
  intro cs ds h
  have hparts := congrArg Parts.ofChars h
  rw [ofChars_escapeChars, ofChars_escapeChars] at hparts
  obtain ⟨horigin, hpath, hquery⟩ := Parts.mk.inj hparts
  rw [← Parts.toChars_ofChars cs, ← Parts.toChars_ofChars ds]
  simp only [Parts.toChars, horigin, escapePath_injective hpath, hquery]

end Link

open Link Text.Percent

/-- Escaping keeps what stands in front of the path and behind it, and writes the path in characters
that mean the same everywhere, from which every segment can be decoded. Nothing is lost by it. -/
theorem escape_reversible :
    (∀ url : String, ∃ origin path written query : List Char,
      url.toList = origin ++ path ++ query ∧
      (escape url).toList = origin ++ written ++ query ∧
      '?' ∉ origin ++ path ∧ (query = [] ∨ ∃ rest, query = '?' :: rest) ∧
      -- Scheme and authority are kept when a scheme stands in front of the first mark.
      (origin ≠ [] ↔ ∃ scheme after,
        IsFirstCut "://".toList (origin ++ path) scheme after ∧ isScheme scheme = true) ∧
      (∀ scheme after, IsFirstCut "://".toList (origin ++ path) scheme after →
        isScheme scheme = true →
          origin = scheme ++ "://".toList ++ after.takeWhile (· != '/')) ∧
      Escaped written ∧
      (written.splitOn '/').length = (path.splitOn '/').length ∧
      (written.splitOn '/').map decode = (path.splitOn '/').map Utf8.encode) ∧
    Function.Injective escape := by
  refine ⟨fun url => ?_, fun url other h => ?_⟩
  · have hhead : (Parts.ofChars url.toList).origin ++ (Parts.ofChars url.toList).path =
        beforeQuery url.toList := List.take_append_drop _ _
    have hsegments := splitOn_escapePath (Parts.ofChars url.toList).path
    refine ⟨_, _, escapePath (Parts.ofChars url.toList).path, _,
      (Parts.toChars_ofChars url.toList).symm, String.toList_ofList, ?_,
      query_ofChars url.toList, ?_, ?_, escaped_escapePath _, ?_, ?_⟩
    · rw [hhead]
      exact mark_not_mem_beforeQuery url.toList
    · rw [hhead]
      obtain ⟨scheme, authority, hscheme, -, horigin, -, hcut⟩ | ⟨hnone, horigin, -⟩ :=
        Parts.ofChars_cases url.toList
      · refine iff_of_true ?_ ⟨scheme, _, hcut, hscheme⟩
        simp [horigin]
      · refine iff_of_false (not_not_intro horigin) ?_
        rintro ⟨scheme, after, hcut, hscheme⟩
        rw [hnone scheme after hcut] at hscheme
        contradiction
    · rw [hhead]
      intro other after hcut hother
      obtain ⟨scheme, authority, -, hauthority, horigin, hpath, hfirst⟩ | ⟨hnone, -, -⟩ :=
        Parts.ofChars_cases url.toList
      · obtain ⟨rfl, rfl⟩ := hcut.unique hfirst
        rw [horigin, takeWhile_mark hauthority hpath]
      · rw [hnone other after hcut] at hother
        contradiction
    · rw [hsegments, List.length_map]
    · rw [hsegments, List.map_map]
      exact List.map_congr_left fun segment _ => decode_encode rfl segment
  · have hchars : escapeChars url.toList = escapeChars other.toList := String.ofList_injective h
    exact String.toList_inj.1 (escapeChars_injective hchars)

end GraphBoard
