import GraphBoard.Link.Escape

set_option autoImplicit false

namespace GraphBoard

open GraphBoard.Text

namespace Text

theorem mem_intercalate {α : Type} {sep c : α} {ws : List (List α)}
    (h : c ∈ [sep].intercalate ws) : c = sep ∨ ∃ w ∈ ws, c ∈ w := by
  induction ws with
  | nil => contradiction
  | cons w ws ih =>
    cases ws with
    | nil =>
      rw [List.intercalate_singleton] at h
      exact .inr ⟨w, List.mem_cons_self, h⟩
    | cons v ws =>
      rw [List.intercalate_cons_cons, List.append_assoc, List.singleton_append] at h
      obtain hw | hrest := List.mem_append.1 h
      · exact .inr ⟨w, List.mem_cons_self, hw⟩
      · obtain rfl | hrest := List.mem_cons.1 hrest
        · exact .inl rfl
        · obtain hsep | ⟨u, hu, hc⟩ := ih hrest
          · exact .inl hsep
          · exact .inr ⟨u, List.mem_cons_of_mem _ hu, hc⟩

end Text

namespace Text.Utf8

/-- No character has bytes that those of another begin with. -/
theorem encodeChar_append_inj {c d : Char} {bs more : List UInt8}
    (h : encodeChar c ++ bs = encodeChar d ++ more) : c = d ∧ bs = more := by
  have hdecode : some c = some d := by
    rw [← ByteArray.utf8DecodeChar?_utf8EncodeChar_append (b := bs.toByteArray) (c := c),
      ← ByteArray.utf8DecodeChar?_utf8EncodeChar_append (b := more.toByteArray) (c := d),
      ← List.toByteArray_append, ← List.toByteArray_append]
    exact congrArg (fun bytes : List UInt8 => bytes.toByteArray.utf8DecodeChar? 0) h
  obtain rfl := Option.some.inj hdecode
  exact ⟨rfl, List.append_cancel_left h⟩

theorem encode_injective : Function.Injective encode := by
  intro cs ds h
  induction cs generalizing ds with
  | nil =>
    cases ds with
    | nil => rfl
    | cons d ds => simp [encode, encodeChar] at h
  | cons c cs ih =>
    cases ds with
    | nil => simp [encode, encodeChar] at h
    | cons d ds =>
      change encodeChar c ++ encode cs = encodeChar d ++ encode ds at h
      obtain ⟨rfl, hrest⟩ := encodeChar_append_inj h
      rw [ih hrest]

end Text.Utf8

namespace Text.Percent

def isWritten (c : Char) : Bool := isUnreserved c || c == '%'

theorem isAlphanum_hexDigit {n : Nat} (h : n < 16) : (hexDigit n).isAlphanum = true := by
  revert n
  decide

theorem isWritten_of_mem_triplet {b : UInt8} {c : Char} (h : c ∈ triplet b) :
    isWritten c = true := by
  have hb : b.toNat < 256 := b.toNat_lt
  have hdigit : ∀ n < 16, isWritten (hexDigit n) = true := fun n hn => by
    simp only [isWritten, isUnreserved, isAlphanum_hexDigit hn, Bool.true_or]
  simp only [triplet, List.mem_cons, List.not_mem_nil, or_false] at h
  obtain rfl | rfl | rfl := h
  · rfl
  · exact hdigit _ (by omega)
  · exact hdigit _ (by omega)

theorem isWritten_of_mem_encode {cs : List Char} {c : Char} (h : c ∈ encode isUnreserved cs) :
    isWritten c = true := by
  obtain ⟨d, -, hc⟩ := List.mem_flatMap.1 h
  unfold encodeChar at hc
  split at hc
  · rename_i hkeep
    cases List.mem_singleton.1 hc
    simp only [Bool.and_eq_true] at hkeep
    simp only [isWritten, hkeep.2, Bool.true_or]
  · obtain ⟨b, -, hc⟩ := List.mem_flatMap.1 hc
    exact isWritten_of_mem_triplet hc

/-- What is written all in characters that stand for themselves is left as it is. -/
theorem encode_eq_self {keep : Char → Bool} {cs : List Char}
    (h : ∀ c ∈ cs, c.toNat < 0x80 ∧ keep c = true) : encode keep cs = cs := by
  induction cs with
  | nil => rfl
  | cons c cs ih =>
    obtain ⟨⟨hlow, hkeep⟩, hrest⟩ := List.forall_mem_cons.1 h
    have hchar : encodeChar keep c = [c] := by simp [encodeChar, hlow, hkeep]
    change encodeChar keep c ++ encode keep cs = _
    rw [hchar, ih hrest]
    rfl

theorem decode_cons_of_ne {c : Char} (h : c ≠ '%') (rest : List Char) :
    decode (c :: rest) = Utf8.encodeChar c ++ decode rest := by
  rw [decode.eq_def]
  split
  · contradiction
  · rename_i heq
    exact absurd (List.cons.inj heq).1 h
  · rename_i heq
    obtain ⟨rfl, rfl⟩ := List.cons.inj heq
    rfl

theorem decode_triplets (bs : List UInt8) (rest : List Char) :
    decode (bs.flatMap triplet ++ rest) = bs ++ decode rest := by
  induction bs with
  | nil => rfl
  | cons b bs ih =>
    rw [List.flatMap_cons, List.append_assoc, decode_triplet, ih, List.cons_append]

theorem decode_encode {keep : Char → Bool} (hkeep : keep '%' = false) (cs : List Char) :
    decode (encode keep cs) = Utf8.encode cs := by
  induction cs with
  | nil => rfl
  | cons c cs ih =>
    change decode (encodeChar keep c ++ encode keep cs) = Utf8.encodeChar c ++ Utf8.encode cs
    unfold encodeChar
    split
    · rename_i hself
      have hne : c ≠ '%' := by
        rintro rfl
        simp [hkeep] at hself
      rw [List.singleton_append, decode_cons_of_ne hne, ih]
    · rw [decode_triplets, ih]

end Text.Percent

namespace Link

open Text.Percent

theorem slash_not_mem_encode (segment : List Char) : '/' ∉ encode isUnreserved segment :=
  fun h => absurd (isWritten_of_mem_encode h) (by decide)

theorem mem_escapePath {cs : List Char} {c : Char} (h : c ∈ escapePath cs) :
    c = '/' ∨ isWritten c = true := by
  obtain rfl | ⟨w, hw, hc⟩ := mem_intercalate h
  · exact .inl rfl
  · obtain ⟨segment, -, rfl⟩ := List.mem_map.1 hw
    exact .inr (isWritten_of_mem_encode hc)

theorem splitOn_escapePath (cs : List Char) :
    (escapePath cs).splitOn '/' = (cs.splitOn '/').map (encode isUnreserved) := by
  refine List.splitOn_intercalate '/' (fun w hw => ?_) ?_
  · obtain ⟨segment, -, rfl⟩ := List.mem_map.1 hw
    exact slash_not_mem_encode segment
  · rw [ne_eq, List.map_eq_nil_iff]
    exact List.splitOn_ne_nil '/' cs

theorem escapePath_cons_slash (cs : List Char) :
    escapePath ('/' :: cs) = '/' :: escapePath cs := by
  have hsplit : ('/' :: cs).splitOn '/' = [] :: cs.splitOn '/' :=
    List.splitOn_append_cons_self_of_not_mem List.not_mem_nil cs
  obtain ⟨w, ws, hws⟩ := List.exists_cons_of_ne_nil (List.splitOn_ne_nil '/' cs)
  simp only [escapePath, hsplit, hws, List.map_cons, List.intercalate_cons_cons]
  rfl

end Link

end GraphBoard
