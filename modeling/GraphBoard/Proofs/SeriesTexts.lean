import GraphBoard.Proofs.JsonPrefixes
import GraphBoard.Proofs.WholeNumbers
import GraphBoard.Series.Basic
import Mathlib.Data.List.Forall2

set_option autoImplicit false

namespace GraphBoard

open GraphBoard.Text GraphBoard.Json

/-- A whole value that is a number of 64 bits exactly, if there is a value, and a time. -/
structure Reading where
  value : Option Int
  time : Int
  exact : ∀ n ∈ value, n.natAbs ≤ 2 ^ 53
  fits : -2 ^ 63 ≤ time ∧ time < 2 ^ 63

structure Track where
  target : String
  readings : List Reading

def Reading.sample (reading : Reading) : Sample := ⟨reading.value.map Number.ofInt, reading.time⟩

def Track.series (track : Track) : Series := ⟨track.target, track.readings.map Reading.sample⟩

def valueJson : Option Int → Value
  | some n => .number (.ofInt n)
  | none => .null

def Reading.json (reading : Reading) : Value :=
  .array [valueJson reading.value, .number (.ofInt reading.time)]

def Track.targetMember (track : Track) : Option String × Value :=
  (some "target", .string (some track.target))

def Track.datapointsMember (track : Track) : Option String × Value :=
  (some "datapoints", .array (track.readings.map Reading.json))

inductive Track.IsJson (track : Track) : Value → Prop where
  | targetFirst : Track.IsJson track (.object [track.targetMember, track.datapointsMember])
  | datapointsFirst : Track.IsJson track (.object [track.datapointsMember, track.targetMember])

def TracksText (tracks : List Track) (text : List Char) : Prop :=
  ∃ values, List.Forall₂ Track.IsJson tracks values ∧ Written (.array values) text

section Decoding

theorem Json.Numeral.toFloat?_ofInt {n : Int} (h : n.natAbs ≤ 2 ^ 53) :
    (Numeral.ofInt n).toFloat? = some (Number.ofInt n) := by
  have hbits : Number.decimalBits n.natAbs 0 = Number.nearestBits n.natAbs 1 := by
    have hsmall : ¬ ((n.natAbs.log2 : Int) + 1100 < -3 * 0) := by omega
    by_cases hzero : n.natAbs = 0
    · rw [hzero]
      rfl
    · simp only [Number.decimalBits, beq_iff_eq, hzero, hsmall, if_false]
      rw [if_neg (by decide)]
      exact congrArg (Number.nearestBits · 1) (Nat.mul_one n.natAbs)
  have hfinite : Number.nearestBits n.natAbs 1 ≠ Number.infinityBits := by
    by_cases hzero : n.natAbs = 0
    · rw [hzero]
      decide
    · obtain ⟨field, fraction, heq, -, hfield, hfraction, -⟩ := Number.nearestBits_whole hzero h
      rw [heq, Number.infinityBits]
      omega
  simp only [Numeral.toFloat?, Numeral.ofInt, Option.getD_none, hbits, beq_iff_eq, hfinite,
    if_false]
  rfl

theorem Json.Numeral.toTime?_ofInt {t : Int} (h : -2 ^ 63 ≤ t ∧ t < 2 ^ 63) :
    (Numeral.ofInt t).toTime? = some t := by
  have hwhole : ∀ (negative : Bool) (digits : Nat), Numeral.toTime? ⟨negative, digits, none⟩ =
      if negative && digits == 0 then none
      else if negative then if digits ≤ 2 ^ 63 then some (-(digits : Int)) else none
      else if digits < 2 ^ 63 then some digits else none := fun _ _ => rfl
  rw [Numeral.ofInt, hwhole]
  by_cases ht : t < 0
  · have hzero : t.natAbs ≠ 0 := by omega
    simp only [ht, decide_true, Bool.true_and, beq_iff_eq, hzero, if_false, if_true]
    rw [if_pos (by omega)]
    congr 1
    omega
  · simp only [ht, decide_false, Bool.false_and, Bool.false_eq_true, if_false]
    rw [if_pos (by omega)]
    congr 1
    omega

theorem Reading.ofJson? (reading : Reading) :
    Sample.ofJson? reading.json = some reading.sample := by
  obtain ⟨value, time, hexact, hfits⟩ := reading
  cases value with
  | none =>
    simp only [Reading.json, valueJson, Sample.ofJson?, Numeral.toTime?_ofInt hfits]
    rfl
  | some n =>
    simp only [Reading.json, valueJson, Sample.ofJson?, Numeral.toFloat?_ofInt (hexact n rfl),
      Numeral.toTime?_ofInt hfits]
    rfl

theorem mapM_eq_some {α β γ : Type} {f : α → Option β} {g : γ → β} {as : List α} {cs : List γ}
    (h : List.Forall₂ (fun c a => f a = some (g c)) cs as) : as.mapM f = some (cs.map g) := by
  induction h with
  | nil => rfl
  | cons hc _ ih =>
    rw [List.mapM_cons, hc, ih]
    rfl

theorem Track.ofJson? {track : Track} {v : Value} (h : track.IsJson v) :
    Series.ofJson? v = some track.series := by
  have hsamples : samplesOfJson? (.array (track.readings.map Reading.json)) =
      some (track.readings.map Reading.sample) :=
    mapM_eq_some (List.forall₂_map_right_iff.2 (List.forall₂_same.2 fun r _ => r.ofJson?))
  have hread : (samplesOfJson? (.array (track.readings.map Reading.json))).bind
      (fun samples => some (⟨track.target, samples⟩ : Series)) = some track.series := by
    rw [hsamples]
    rfl
  cases h with
  | targetFirst => exact hread
  | datapointsFirst => exact hread

end Decoding

theorem parse?_cut {items : List Value} {text : List Char} (h : Written (.array items) text)
    {bytes : List UInt8} (hfront : bytes <+: Utf8.encode text) (hne : bytes ≠ Utf8.encode text) :
    Series.parse? bytes = none := by
  obtain ⟨more, hmore⟩ := hfront
  -- With what is missing this is an array up to the end, so without it at most a number.
  have hlost : more ≠ [] := by
    rintro rfl
    exact hne (by rw [← hmore, List.append_nil])
  have hread : value? ((Utf8.encode text).length + 1) (bytes ++ more) =
      some (.array items, []) := by
    rw [hmore]
    have hfull := h.read (Nat.le_succ_of_le (length_le_encode text)) endsNumeral_nil
    rwa [List.append_nil] at hfull
  have hfuel : bytes.length + 1 ≤ (Utf8.encode text).length + 1 := by
    rw [← hmore, List.length_append]
    omega
  unfold Series.parse?
  split
  · rename_i hcut
    obtain ⟨n, hn⟩ := number_of_cut hread hfuel hlost hcut
    contradiction
  · rfl

section Compact

def listText (texts : List (List Char)) : List Char := '[' :: ([','].intercalate texts ++ [']'])

def valueText : Option Int → List Char
  | some n => (toString n).toList
  | none => "null".toList

def Reading.text (reading : Reading) : List Char :=
  listText [valueText reading.value, (toString reading.time).toList]

def Track.text (track : Track) : List Char :=
  '{' :: ((plainText "target" ++ ':' :: (plainText track.target ++ ',' :: (plainText "datapoints" ++
    ':' :: listText (track.readings.map Reading.text)))) ++ ['}'])

def compact (tracks : List Track) : List Char := listText (tracks.map Track.text)

theorem isBlank_nil : IsBlank [] := nofun

theorem writtenItems_intercalate {v : Value} {text : List Char} {vs : List Value}
    {texts : List (List Char)} (h : Written v text) (hs : List.Forall₂ Written vs texts) :
    WrittenItems (v :: vs) ([','].intercalate (text :: texts)) := by
  induction hs generalizing v text with
  | nil =>
    have hlast := WrittenItems.last isBlank_nil h isBlank_nil
    rw [List.nil_append, List.append_nil] at hlast
    rwa [List.intercalate_singleton]
  | cons hnext _ ih =>
    rw [List.intercalate_cons_cons, List.append_assoc]
    exact .cons isBlank_nil h isBlank_nil (ih hnext)

theorem written_listText {values : List Value} {texts : List (List Char)}
    (h : List.Forall₂ Written values texts) : Written (.array values) (listText texts) := by
  cases h with
  | nil => exact .nil isBlank_nil
  | cons hfirst hrest => exact .array (writtenItems_intercalate hfirst hrest)

theorem written_valueText (value : Option Int) : Written (valueJson value) (valueText value) := by
  cases value with
  | none => exact .null
  | some n => exact .whole n

theorem Reading.written (reading : Reading) : Written reading.json reading.text :=
  written_listText (.cons (written_valueText _) (.cons (.whole _) .nil))

theorem Track.written (track : Track) :
    Written (.object [track.targetMember, track.datapointsMember]) track.text := by
  have hreadings : Written (.array (track.readings.map Reading.json))
      (listText (track.readings.map Reading.text)) := by
    refine written_listText (List.forall₂_map_left_iff.2 (List.forall₂_map_right_iff.2 ?_))
    exact List.forall₂_same.2 fun reading _ => reading.written
  have hdatapoints := WrittenMembers.last isBlank_nil (stringText_plainText "datapoints")
    isBlank_nil isBlank_nil hreadings isBlank_nil
  rw [List.append_nil] at hdatapoints
  exact .object (.cons isBlank_nil (stringText_plainText "target") isBlank_nil isBlank_nil
    (.string (stringText_plainText track.target)) isBlank_nil hdatapoints)

theorem tracksText_compact (tracks : List Track) : TracksText tracks (compact tracks) := by
  refine ⟨tracks.map fun track => .object [track.targetMember, track.datapointsMember], ?_, ?_⟩
  · exact List.forall₂_map_right_iff.2 (List.forall₂_same.2 fun _ _ => .targetFirst)
  · refine written_listText (List.forall₂_map_left_iff.2 (List.forall₂_map_right_iff.2 ?_))
    exact List.forall₂_same.2 fun track _ => track.written

end Compact

/-- Every list of tracks has a text without blanks; whatever text it has, however spaced and
escaped, is read as its series, with whole values as the numbers equal to them; and no text cut
short is read as anything. -/
theorem tracks_read_back :
    (∀ n : Int, n.natAbs ≤ 2 ^ 53 → (Number.Parts.of (Number.ofInt n)).toRat? = some (n : Rat)) ∧
    (∀ tracks, TracksText tracks (compact tracks)) ∧
    ∀ tracks text, TracksText tracks text →
      (∀ before after, IsBlank before → IsBlank after →
        Series.parse? (Utf8.encode (before ++ (text ++ after))) =
          some (tracks.map Track.series)) ∧
      ∀ bytes, bytes <+: Utf8.encode text → bytes ≠ Utf8.encode text →
        Series.parse? bytes = none := by
  refine ⟨fun n hn => Number.toRat?_ofInt hn, tracksText_compact, fun tracks text htext => ?_⟩
  obtain ⟨values, hvalues, hwritten⟩ := htext
  refine ⟨fun before after hbefore hafter => ?_, fun bytes => parse?_cut hwritten⟩
  rw [Series.parse?, hwritten.parse? hbefore hafter]
  exact mapM_eq_some (hvalues.imp fun _ _ => Track.ofJson?)

theorem tracks_read_back_spaced : Series.parse? (Utf8.ofString
    "\n[\x7b\"datapoints\": [[null, -1]\t,[12,0]],\"target\" :\"\\u00E9\\\"\"\x7d ]") =
      some [⟨"é\"", [⟨none, -1⟩, ⟨some (Number.ofInt 12), 0⟩]⟩] := by
  let track : Track := ⟨"é\"", [⟨none, -1, nofun, by decide⟩, ⟨some 12, 0, by simp, by decide⟩]⟩
  have hblank : ∀ c ∈ [' ', '\t', '\n', '\r'], IsBlank [c] := by
    intro c hc d hd
    rwa [List.mem_singleton.1 hd]
  have haccent : CharText 'é' ['\\', 'u', '0', '0', 'E', '9'] :=
    .unit (.digits ⟨by decide, .inl rfl⟩ ⟨by decide, .inl rfl⟩ ⟨by decide, .inr rfl⟩
      ⟨by decide, .inl rfl⟩)
  have hquote : CharText '"' ['\\', '"'] := .letter (by decide)
  have htarget := Written.string (@StringText.quoted "é\"" _ (.cons haccent (.cons hquote .nil)))
  have hmissing := Written.array (.cons isBlank_nil .null isBlank_nil
    (.last (hblank ' ' (by decide)) (.whole (-1)) isBlank_nil))
  have hvalue := Written.array (.cons isBlank_nil (.whole 12) isBlank_nil
    (.last isBlank_nil (.whole 0) isBlank_nil))
  have hreadings := Written.array (.cons isBlank_nil hmissing (hblank '\t' (by decide))
    (.last isBlank_nil hvalue isBlank_nil))
  have htrack := Written.object (.cons isBlank_nil (stringText_plainText "datapoints") isBlank_nil
    (hblank ' ' (by decide)) hreadings isBlank_nil
    (.last isBlank_nil (stringText_plainText "target") (hblank ' ' (by decide)) isBlank_nil htarget
      isBlank_nil))
  have hwritten := Written.array (.last isBlank_nil htrack (hblank ' ' (by decide)))
  exact (tracks_read_back.2.2 [track] _ ⟨_, .cons .datapointsFirst .nil, hwritten⟩).1 ['\n'] []
    (hblank '\n' (by decide)) isBlank_nil

end GraphBoard
