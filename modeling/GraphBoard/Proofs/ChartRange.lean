import GraphBoard.Board.Draw
import GraphBoard.Proofs.NumberSums

set_option autoImplicit false

/-!
# The range of a chart

The bounds of a chart are the outermost of its points, with room above a flat line. So all points
are within, and there is room upwards. There is room across only if the points are not all of one
time: otherwise nothing of the curves is drawn.
-/
namespace GraphBoard

open GraphBoard.Number GraphBoard.Screen

namespace Number

def IsWhole (x : Float) : Prop := ∃ n : Int, n.natAbs < 2 ^ 53 ∧ Stands x n

theorem IsWhole.ofInt {n : Int} (h : n.natAbs < 2 ^ 53) : IsWhole (ofInt n) :=
  ⟨n, h, toRat?_ofInt h.le⟩

theorem IsWhole.le_of_not_lt {x y : Float} (hx : IsWhole x) (hy : IsWhole y) (h : ¬ y < x) :
    x ≤ y := by
  obtain ⟨n, -, hn⟩ := hx
  obtain ⟨m, -, hm⟩ := hy
  rw [lt_iff hm hn] at h
  exact (le_iff hn hm).2 (not_lt.1 h)

theorem IsWhole.le_trans {x y z : Float} (hx : IsWhole x) (hy : IsWhole y) (hz : IsWhole z)
    (h : x ≤ y) (h' : y ≤ z) : x ≤ z := by
  obtain ⟨_, -, hx⟩ := hx
  obtain ⟨_, -, hy⟩ := hy
  obtain ⟨_, -, hz⟩ := hz
  exact (le_iff hx hz).2 (((le_iff hx hy).1 h).trans ((le_iff hy hz).1 h'))

section Times

variable {n m : Int}

theorem ofInt_le_iff (hn : n.natAbs < 2 ^ 53) (hm : m.natAbs < 2 ^ 53) :
    ofInt n ≤ ofInt m ↔ n ≤ m := by
  rw [le_iff (toRat?_ofInt hn.le) (toRat?_ofInt hm.le), Int.cast_le]

theorem ofInt_lt_iff (hn : n.natAbs < 2 ^ 53) (hm : m.natAbs < 2 ^ 53) :
    ofInt n < ofInt m ↔ n < m := by
  rw [lt_iff (toRat?_ofInt hn.le) (toRat?_ofInt hm.le), Int.cast_lt]

end Times

/-- An order of whole numbers, from either side. -/
structure Orders (before : Float → Float → Prop) : Prop where
  irrefl : ∀ {x}, IsWhole x → ¬ before x x
  trans : ∀ {x y z}, IsWhole x → IsWhole y → IsWhole z → before x y → before y z → before x z

theorem orders_lt : Orders (· < ·) where
  irrefl := fun ⟨_, _, hn⟩ h => lt_irrefl _ ((lt_iff hn hn).1 h)
  trans := fun ⟨_, _, hn⟩ ⟨_, _, hm⟩ ⟨_, _, hk⟩ h h' =>
    (lt_iff hn hk).2 (((lt_iff hn hm).1 h).trans ((lt_iff hm hk).1 h'))

theorem orders_gt : Orders fun x y => y < x where
  irrefl := orders_lt.irrefl
  trans := fun hx hy hz h h' => orders_lt.trans hz hy hx h' h

/-- A number of a list with none of the list before it. -/
structure Foremost (before : Float → Float → Prop) (x : Float) (xs : List Float) : Prop where
  mem : x ∈ xs
  first : ∀ y ∈ xs, ¬ before y x

theorem Orders.foremost_self {before : Float → Float → Prop} {x : Float} (h : Orders before)
    (hx : IsWhole x) : Foremost before x [x] where
  mem := List.mem_singleton_self x
  first := fun y hy => by
    rw [List.mem_singleton.1 hy]
    exact h.irrefl hx

theorem Foremost.concat {before : Float → Float → Prop} [DecidableRel before] {x y : Float}
    {xs : List Float} (h : Foremost before x xs) (horder : Orders before)
    (hxs : ∀ z ∈ xs, IsWhole z) (hy : IsWhole y) :
    Foremost before (if before y x then y else x) (xs ++ [y]) := by
  split
  · rename_i hbefore
    refine ⟨by simp, fun z hz hzy => ?_⟩
    obtain hz | hz := List.mem_append.1 hz
    · exact h.first z hz (horder.trans (hxs z hz) hy (hxs x h.mem) hzy hbefore)
    · rw [List.mem_singleton.1 hz] at hzy
      exact horder.irrefl hy hzy
  · rename_i hbefore
    refine ⟨List.mem_append_left _ h.mem, fun z hz => ?_⟩
    obtain hz | hz := List.mem_append.1 hz
    · exact h.first z hz
    · rw [List.mem_singleton.1 hz]
      exact hbefore

theorem stands_greatest : Stands ChartBounds.greatest ((2 ^ 53 - 1 : Nat) * 2 ^ (971 : Int)) := by
  have hparts : Parts.of ChartBounds.greatest = .finite false (2 ^ 53 - 1) 971 := by decide
  rw [Stands, hparts, Parts.toRat?, if_neg Bool.false_ne_true, one_mul]

theorem stands_least : Stands ChartBounds.least (-((2 ^ 53 - 1 : Nat) * 2 ^ (971 : Int))) := by
  have hparts : Parts.of ChartBounds.least = .finite true (2 ^ 53 - 1) 971 := by decide
  rw [Stands, hparts, Parts.toRat?, if_pos rfl, neg_one_mul, neg_mul]

theorem stands_epsilon : Stands ChartBounds.epsilon (2 ^ 52 * 2 ^ (-104 : Int)) := by
  have hparts : Parts.of ChartBounds.epsilon = .finite false (2 ^ 52) (-104) := by decide
  rw [Stands, hparts, Parts.toRat?, if_neg Bool.false_ne_true, one_mul]
  norm_num

theorem stands_one : Stands 1.0 1 := by
  have hparts : Parts.of 1.0 = .finite false (2 ^ 52) (-52) := by decide
  rw [Stands, hparts, Parts.toRat?, if_neg Bool.false_ne_true, one_mul]
  norm_num

theorem stands_zero : Stands 0.0 0 := by
  have hparts : Parts.of 0.0 = .finite false 0 (-1074) := by decide
  rw [Stands, hparts, Parts.toRat?]
  norm_num

theorem abs_lt_greatest {n : Int} (h : n.natAbs < 2 ^ 53) :
    |(n : Rat)| < (2 ^ 53 - 1 : Nat) * 2 ^ (971 : Int) := by
  have hn : |(n : Rat)| < 2 ^ 53 := by
    rw [← Int.cast_abs, Int.abs_eq_natAbs]
    exact_mod_cast h
  calc |(n : Rat)| < 2 ^ 53 := hn
    _ ≤ (2 ^ 53 - 1 : Nat) * 2 ^ (1 : Int) := by norm_num
    _ ≤ (2 ^ 53 - 1 : Nat) * 2 ^ (971 : Int) :=
      mul_le_mul_of_nonneg_left (zpow_le_zpow_right₀ one_le_two (by decide)) (Nat.cast_nonneg _)

theorem IsWhole.lt_greatest {x : Float} (h : IsWhole x) : x < ChartBounds.greatest := by
  obtain ⟨n, hn, hx⟩ := h
  exact (lt_iff hx stands_greatest).2 ((le_abs_self _).trans_lt (abs_lt_greatest hn))

theorem IsWhole.least_lt {x : Float} (h : IsWhole x) : ChartBounds.least < x := by
  obtain ⟨n, hn, hx⟩ := h
  exact (lt_iff stands_least hx).2 (neg_lt_of_abs_lt (abs_lt_greatest hn))

section Differences

variable {x y : Float}

theorem IsWhole.lt_add_one (hx : IsWhole x) (hy : IsWhole y) (h : y ≤ x) :
    y < x + 1.0 := by
  obtain ⟨n, hn, hx⟩ := hx
  obtain ⟨m, -, hy⟩ := hy
  rw [le_iff hy hx] at h
  have hsum : Stands (x + 1.0) (n + 1 : Int) :=
    stands_add hx stands_one (by push_cast; rfl) (by omega)
  rw [lt_iff hy hsum]
  push_cast
  linarith

theorem IsWhole.sub_lt_epsilon_iff (hx : IsWhole x) (hy : IsWhole y) (h : x ≤ y) :
    y - x < ChartBounds.epsilon ↔ ¬ x < y := by
  obtain ⟨n, hn, hx⟩ := hx
  obtain ⟨m, hm, hy⟩ := hy
  rw [le_iff hx hy, Int.cast_le] at h
  rw [lt_iff hx hy, Int.cast_lt]
  obtain rfl | hlt := Int.le_iff_eq_or_lt.1 h
  · have hzero : Stands (y - x) (0 : Int) := stands_sub hy hx (by simp) (by decide)
    rw [lt_iff hzero stands_epsilon]
    simp
  · have hlow : (1 : Rat) ≤ m - n := by exact_mod_cast Int.le_sub_left_of_add_le hlt
    have hhigh : ((m : Rat) - n) < 2 ^ 54 := by
      have : m - n < 2 ^ 54 := by omega
      exact_mod_cast this
    obtain ⟨w, hw, hstands⟩ := one_le_sub hy hx hlow hhigh
    have hepsilon : (2 : Rat) ^ 52 * 2 ^ (-104 : Int) < 1 := by norm_num
    rw [lt_iff hstands stands_epsilon]
    constructor
    · intro hw'
      linarith
    · exact fun hge => absurd hlt hge

theorem IsWhole.abs_sub_beq_zero (hx : IsWhole x) (hy : IsWhole y) (hle : x ≤ y) (h : ¬ x < y) :
    ((y - x).abs == 0.0) = true := by
  obtain ⟨n, hn, hx⟩ := hx
  obtain ⟨m, hm, hy⟩ := hy
  rw [le_iff hx hy, Int.cast_le] at hle
  rw [lt_iff hx hy, Int.cast_lt] at h
  obtain rfl := Int.le_antisymm hle (Int.not_lt.1 h)
  have hzero : Stands (y - x) (0 : Int) := stands_sub hy hx (by simp) (by decide)
  rw [beq_iff (stands_abs hzero) stands_zero]
  simp

end Differences

end Number

structure ChartPoint.IsWhole (p : ChartPoint) : Prop where
  x : Number.IsWhole p.x
  y : Number.IsWhole p.y

structure ChartBounds.Around (b : ChartBounds) (points : List ChartPoint) : Prop where
  left : Foremost (· < ·) b.left (points.map ChartPoint.x)
  right : Foremost (fun x y => y < x) b.right (points.map ChartPoint.x)
  low : Foremost (· < ·) b.low (points.map ChartPoint.y)
  high : Foremost (fun x y => y < x) b.high (points.map ChartPoint.y)

namespace ChartBounds

variable {b : ChartBounds} {p : ChartPoint} {points : List ChartPoint}

theorem empty_add (hp : p.IsWhole) : empty.add p = ⟨p.x, p.x, p.y, p.y⟩ := by
  simp only [add, empty, hp.x.lt_greatest, hp.x.least_lt, hp.y.lt_greatest, hp.y.least_lt,
    ↓reduceIte]

theorem around_first (hp : p.IsWhole) : Around (empty.add p) [p] := by
  rw [empty_add hp]
  exact ⟨orders_lt.foremost_self hp.x, orders_gt.foremost_self hp.x,
    orders_lt.foremost_self hp.y, orders_gt.foremost_self hp.y⟩

theorem Around.add (h : Around b points) (hpoints : ∀ p ∈ points, p.IsWhole) (hp : p.IsWhole) :
    Around (b.add p) (points ++ [p]) := by
  have hx := List.forall_mem_map.2 fun q hq => (hpoints q hq).x
  have hy := List.forall_mem_map.2 fun q hq => (hpoints q hq).y
  constructor <;> rw [List.map_append]
  · exact h.left.concat orders_lt hx hp.x
  · exact h.right.concat orders_gt hx hp.x
  · exact h.low.concat orders_lt hy hp.y
  · exact h.high.concat orders_gt hy hp.y

theorem Around.foldl {before : List ChartPoint} (h : Around b before)
    (hwhole : ∀ p ∈ before ++ points, p.IsWhole) :
    Around (points.foldl ChartBounds.add b) (before ++ points) := by
  induction points generalizing b before with
  | nil => rwa [List.append_nil]
  | cons p points ih =>
    rw [List.append_cons] at hwhole ⊢
    refine ih (h.add (fun q hq => ?_) ?_) hwhole
    · exact hwhole q (by simp [hq])
    · exact hwhole p (by simp)

theorem around_all (hne : points ≠ []) (hwhole : ∀ p ∈ points, p.IsWhole) :
    Around (points.foldl add empty) points := by
  obtain ⟨p, rest, rfl⟩ := List.exists_cons_of_ne_nil hne
  exact (around_first (hwhole p List.mem_cons_self)).foldl hwhole

structure Contains (b : ChartBounds) (p : ChartPoint) : Prop where
  left : b.left ≤ p.x
  right : p.x ≤ b.right
  low : b.low ≤ p.y
  high : p.y ≤ b.high

theorem Around.width (h : Around b points) (hwhole : ∀ p ∈ points, p.IsWhole) :
    Number.IsWhole b.left ∧ Number.IsWhole b.right := by
  have hx := List.forall_mem_map.2 fun q hq => (hwhole q hq).x
  exact ⟨hx _ h.left.mem, hx _ h.right.mem⟩

theorem Around.height (h : Around b points) (hwhole : ∀ p ∈ points, p.IsWhole) :
    Number.IsWhole b.low ∧ Number.IsWhole b.high := by
  have hy := List.forall_mem_map.2 fun q hq => (hwhole q hq).y
  exact ⟨hy _ h.low.mem, hy _ h.high.mem⟩

theorem Around.contains (h : Around b points) (hwhole : ∀ p ∈ points, p.IsWhole)
    (hp : p ∈ points) : b.Contains p := by
  obtain ⟨hleft, hright⟩ := h.width hwhole
  obtain ⟨hlow, hhigh⟩ := h.height hwhole
  have hx := List.mem_map_of_mem (f := ChartPoint.x) hp
  have hy := List.mem_map_of_mem (f := ChartPoint.y) hp
  exact ⟨hleft.le_of_not_lt (hwhole p hp).x (h.left.first _ hx),
    (hwhole p hp).x.le_of_not_lt hright (h.right.first _ hx),
    hlow.le_of_not_lt (hwhole p hp).y (h.low.first _ hy),
    (hwhole p hp).y.le_of_not_lt hhigh (h.high.first _ hy)⟩

/-- Bounds that hold all points, from the first to the last time of these, with room upwards. -/
structure Fits (b : ChartBounds) (points : List ChartPoint) : Prop where
  contains : ∀ p ∈ points, b.Contains p
  left : b.left ∈ points.map ChartPoint.x
  right : b.right ∈ points.map ChartPoint.x
  low_lt_high : b.low < b.high

/-- A flat line gets room above it, and other points have room already. -/
theorem Around.fits (h : Around b points) (hwhole : ∀ p ∈ points, p.IsWhole) :
    Fits (if b.high - b.low < epsilon then { b with high := b.low + 1.0 } else b) points := by
  obtain ⟨hlow, hhigh⟩ := h.height hwhole
  have hcontains := fun p hp => h.contains (p := p) hwhole hp
  have hle : b.low ≤ b.high := hlow.le_of_not_lt hhigh (h.low.first _ h.high.mem)
  have hflat := hlow.sub_lt_epsilon_iff hhigh hle
  split
  · rename_i hclose
    have hlevel : b.high ≤ b.low := hhigh.le_of_not_lt hlow (hflat.1 hclose)
    have hbelow : ∀ p ∈ points, p.y ≤ b.low := fun p hp =>
      (hwhole p hp).y.le_trans hhigh hlow (hcontains p hp).high hlevel
    have hself : b.low ≤ b.low := hlow.le_of_not_lt hlow (orders_lt.irrefl hlow)
    refine ⟨fun p hp => ?_, h.left.mem, h.right.mem, hlow.lt_add_one hlow hself⟩
    exact { hcontains p hp with
      high := le_of_lt (hlow.lt_add_one (hwhole p hp).y (hbelow p hp)) }
  · rename_i hapart
    exact ⟨hcontains, h.left.mem, h.right.mem, not_not.1 (mt hflat.2 hapart)⟩

theorem ofSeries?_of_whole {series : List Series} (hne : series.flatMap Series.points ≠ [])
    (hwhole : ∀ p ∈ series.flatMap Series.points, p.IsWhole) :
    ∃ b, ofSeries? series = some b ∧ Fits b (series.flatMap Series.points) := by
  have haround := around_all hne hwhole
  refine ⟨_, ?_, haround.fits hwhole⟩
  rw [ofSeries?, if_neg (haround.right.first _ haround.left.mem)]
  split <;> rfl

theorem ofSeries?_of_no_points {series : List Series} (h : series.flatMap Series.points = []) :
    ofSeries? series = none := by
  have hapart : least < greatest := by decide
  rw [ofSeries?, h]
  exact if_pos hapart

end ChartBounds

section Flat

variable {b : ChartBounds} {points : List ChartPoint}

/-- Without room across no point has a dot. -/
theorem dotOf?_of_flat (h : ((b.right - b.left).abs == 0.0) = true) (columns rows : Nat)
    (p : ChartPoint) : dotOf? b columns rows p = none := by
  simp only [dotOf?, h, Bool.true_or, ↓reduceIte, ite_self]

theorem foldl_replicate_of_eq {α β : Type} {f : α → β → α} {a : α} {x : β} (h : f a x = a)
    (n : Nat) : (List.replicate n x).foldl f a = a := by
  induction n with
  | zero => rfl
  | succ n ih => rw [List.replicate_succ, List.foldl_cons, h, ih]

theorem curve_of_flat (h : ((b.right - b.left).abs == 0.0) = true) (width height : Nat) :
    curve b width height points = Dots.blank width height := by
  have hdots : points.map (dotOf? b (2 * width) (4 * height)) =
      List.replicate points.length none := by
    rw [List.map_congr_left fun p _ => dotOf?_of_flat h _ _ p, List.map_const']
  rw [curve, hdots, List.tail_replicate, List.zip_replicate, foldl_replicate_of_eq rfl]
  simp

end Flat

def measured (series : List Series) : List Sample :=
  (series.flatMap Series.samples).filter (·.value.isSome)

structure Sample.IsWhole (sample : Sample) : Prop where
  value : ∀ v ∈ sample.value, Number.IsWhole v
  time : sample.time.natAbs < 2 ^ 53

theorem mem_points {series : List Series} {p : ChartPoint} :
    p ∈ series.flatMap Series.points ↔
      ∃ sample ∈ measured series, ∃ v ∈ sample.value, p = ⟨ofInt sample.time, v⟩ := by
  simp only [List.mem_flatMap, Series.points, List.mem_filterMap, measured, List.mem_filter,
    Option.map_eq_some_iff]
  constructor
  · rintro ⟨s, hs, sample, hsample, v, hv, rfl⟩
    exact ⟨sample, ⟨⟨s, hs, hsample⟩, by rw [hv]; rfl⟩, v, hv, rfl⟩
  · rintro ⟨sample, ⟨⟨s, hs, hsample⟩, -⟩, v, hv, rfl⟩
    exact ⟨s, hs, sample, hsample, v, hv, rfl⟩

section Chart

variable {series : List Series}

theorem points_eq_nil_iff : series.flatMap Series.points = [] ↔ measured series = [] := by
  constructor
  · intro h
    refine List.eq_nil_iff_forall_not_mem.2 fun sample hsample => ?_
    obtain ⟨v, hv⟩ := Option.isSome_iff_exists.1 (List.mem_filter.1 hsample).2
    have hmem : ⟨ofInt sample.time, v⟩ ∈ series.flatMap Series.points :=
      mem_points.2 ⟨sample, hsample, v, hv, rfl⟩
    rw [h] at hmem
    exact absurd hmem List.not_mem_nil
  · intro h
    refine List.eq_nil_iff_forall_not_mem.2 fun p hp => ?_
    obtain ⟨sample, hsample, -⟩ := mem_points.1 hp
    rw [h] at hsample
    exact absurd hsample List.not_mem_nil

theorem Sample.isWhole_ofInt {n t : Int} (hn : n.natAbs < 2 ^ 53) (ht : t.natAbs < 2 ^ 53) :
    Sample.IsWhole ⟨some (Number.ofInt n), t⟩ := by
  refine ⟨?_, ht⟩
  rintro _ ⟨⟩
  exact .ofInt hn

theorem Sample.IsWhole.point {sample : Sample} (h : sample.IsWhole) {v : Float}
    (hv : v ∈ sample.value) : ChartPoint.IsWhole ⟨ofInt sample.time, v⟩ :=
  ⟨.ofInt h.time, h.value v hv⟩

theorem whole_points (hwhole : ∀ sample ∈ measured series, sample.IsWhole) :
    ∀ p ∈ series.flatMap Series.points, p.IsWhole := by
  intro p hp
  obtain ⟨sample, hsample, v, hv, rfl⟩ := mem_points.1 hp
  exact (hwhole sample hsample).point hv

theorem exists_sample_of_mem_x {x : Float}
    (h : x ∈ (series.flatMap Series.points).map ChartPoint.x) :
    ∃ sample ∈ measured series, x = ofInt sample.time := by
  obtain ⟨p, hp, rfl⟩ := List.mem_map.1 h
  obtain ⟨sample, hsample, v, -, rfl⟩ := mem_points.1 hp
  exact ⟨sample, hsample, rfl⟩

namespace ChartBounds.Fits

variable {b : ChartBounds}

theorem times (h : b.Fits (series.flatMap Series.points))
    (hwhole : ∀ sample ∈ measured series, sample.IsWhole) :
    ∃ first ∈ measured series, ∃ last ∈ measured series,
      b.left = ofInt first.time ∧ b.right = ofInt last.time ∧
      ∀ sample ∈ measured series, first.time ≤ sample.time ∧ sample.time ≤ last.time := by
  obtain ⟨first, hfirst, hleft⟩ := exists_sample_of_mem_x h.left
  obtain ⟨last, hlast, hright⟩ := exists_sample_of_mem_x h.right
  refine ⟨first, hfirst, last, hlast, hleft, hright, fun sample hsample => ?_⟩
  obtain ⟨v, hv⟩ := Option.isSome_iff_exists.1 (List.mem_filter.1 hsample).2
  have hcontains := h.contains _ (mem_points.2 ⟨sample, hsample, v, hv, rfl⟩)
  have htime := hwhole sample hsample
  constructor
  · have hle := hcontains.left
    rwa [hleft, ofInt_le_iff (hwhole first hfirst).time htime.time] at hle
  · have hle := hcontains.right
    rwa [hright, ofInt_le_iff htime.time (hwhole last hlast).time] at hle

theorem left_lt_right_iff (h : b.Fits (series.flatMap Series.points))
    (hwhole : ∀ sample ∈ measured series, sample.IsWhole) :
    b.left < b.right ↔ ∃ p ∈ measured series, ∃ q ∈ measured series, p.time < q.time := by
  obtain ⟨first, hfirst, last, hlast, hleft, hright, hbetween⟩ := h.times hwhole
  rw [hleft, hright, ofInt_lt_iff (hwhole first hfirst).time (hwhole last hlast).time]
  constructor
  · exact fun hlt => ⟨first, hfirst, last, hlast, hlt⟩
  · rintro ⟨p, hp, q, hq, hlt⟩
    have hlow := (hbetween p hp).1
    have hhigh := (hbetween q hq).2
    omega

theorem curve_eq_blank (h : b.Fits (series.flatMap Series.points))
    (hwhole : ∀ sample ∈ measured series, sample.IsWhole) (hlevel : ¬ b.left < b.right)
    (width height : Nat) (points : List ChartPoint) :
    curve b width height points = Dots.blank width height := by
  obtain ⟨first, hfirst, last, hlast, hleft, hright, hbetween⟩ := h.times hwhole
  refine curve_of_flat (IsWhole.abs_sub_beq_zero ?_ ?_ ?_ hlevel) width height
  · rw [hleft]
    exact .ofInt (hwhole first hfirst).time
  · rw [hright]
    exact .ofInt (hwhole last hlast).time
  · rw [hleft, hright, ofInt_le_iff (hwhole first hfirst).time (hwhole last hlast).time]
    exact (hbetween first hfirst).2

end ChartBounds.Fits

theorem Feed.draw_of_ready {feed : Feed} (h : feed.status = .ready series) (g : Grid) (a : Area) :
    feed.draw g a = match ChartBounds.ofSeries? series with
      | some b => drawChart b series g a
      | none => (messageBox "No data" (.ofFg .darkGray) false).draw g a := by
  obtain ⟨url, status, pending, inbox⟩ := feed
  obtain rfl : status = .ready series := h
  rfl

/-- A chart is drawn unless all values are missing. Its bounds hold all samples and have room
upwards; they have room across if the samples are not all of one time, and otherwise no curve has
a dot. -/
theorem chart_range (hwhole : ∀ sample ∈ measured series, sample.IsWhole) {feed : Feed}
    (hready : feed.status = .ready series) (g : Grid) (a : Area) :
    (measured series = [] →
      feed.draw g a = (messageBox "No data" (.ofFg .darkGray) false).draw g a) ∧
    (measured series ≠ [] → ∃ b,
      ChartBounds.ofSeries? series = some b ∧ feed.draw g a = drawChart b series g a ∧
      (∀ sample ∈ measured series, ∀ v ∈ sample.value, b.Contains ⟨ofInt sample.time, v⟩) ∧
      b.low < b.high ∧
      (b.left < b.right ↔ ∃ p ∈ measured series, ∃ q ∈ measured series, p.time < q.time) ∧
      (¬ b.left < b.right → ∀ s ∈ series, ∀ width height,
        curve b width height s.points = Dots.blank width height)) := by
  rw [Feed.draw_of_ready hready]
  constructor
  · intro hnone
    rw [ChartBounds.ofSeries?_of_no_points (points_eq_nil_iff.2 hnone)]
  · intro hsome
    obtain ⟨b, hb, hfits⟩ := ChartBounds.ofSeries?_of_whole (mt points_eq_nil_iff.1 hsome)
      (whole_points hwhole)
    rw [hb]
    refine ⟨b, rfl, rfl, fun sample hsample v hv => ?_, hfits.low_lt_high,
      hfits.left_lt_right_iff hwhole, fun hlevel s _ width height =>
        hfits.curve_eq_blank hwhole hlevel width height s.points⟩
    exact hfits.contains _ (mem_points.2 ⟨sample, hsample, v, hv, rfl⟩)

def fallingSeries : List Series :=
  [⟨"cpu", [⟨some (ofInt 3), 0⟩, ⟨some (ofInt (-2)), 60⟩]⟩, ⟨"load", [⟨none, 120⟩]⟩]

theorem chart_range_falling : ∃ b, ChartBounds.ofSeries? fallingSeries = some b ∧
    (Feed.mk "/render" (.ready fallingSeries) 0 []).draw (Grid.blank 12 3) ⟨0, 0, 12, 3⟩ =
      drawChart b fallingSeries (Grid.blank 12 3) ⟨0, 0, 12, 3⟩ ∧
    b.Contains ⟨ofInt 60, ofInt (-2)⟩ ∧ b.low < b.high ∧ b.left < b.right := by
  have hmeasured : measured fallingSeries = [⟨some (ofInt 3), 0⟩, ⟨some (ofInt (-2)), 60⟩] := rfl
  have hwhole : ∀ sample ∈ measured fallingSeries, sample.IsWhole := by
    rw [hmeasured, List.forall_mem_cons, List.forall_mem_singleton]
    exact ⟨Sample.isWhole_ofInt (by decide) (by decide),
      Sample.isWhole_ofInt (by decide) (by decide)⟩
  have hready : (Feed.mk "/render" (.ready fallingSeries) 0 []).status = .ready fallingSeries := rfl
  have hsome : measured fallingSeries ≠ [] := by
    rw [hmeasured]
    exact List.cons_ne_nil _ _
  obtain ⟨b, hb, hdraw, hcontains, hroom, hacross, -⟩ :=
    (chart_range hwhole hready (Grid.blank 12 3) ⟨0, 0, 12, 3⟩).2 hsome
  refine ⟨b, hb, hdraw, hcontains ⟨some (ofInt (-2)), 60⟩ ?_ _ rfl, hroom, hacross.2 ?_⟩
  · rw [hmeasured]
    simp
  · rw [hmeasured]
    exact ⟨_, .head _, _, .tail _ (.head _), by decide⟩

def oneSample : List Series := [⟨"cpu", [⟨some (ofInt 5), 60⟩]⟩]

/-- The bounds of a single sample have no room across, though they have some upwards. -/
theorem chart_flattened : measured oneSample ≠ [] ∧
    (∀ sample ∈ measured oneSample, sample.IsWhole) ∧
    ∃ b, ChartBounds.ofSeries? oneSample = some b ∧ ¬ b.left < b.right := by
  have hmeasured : measured oneSample = [⟨some (ofInt 5), 60⟩] := rfl
  have hsome : measured oneSample ≠ [] := by
    rw [hmeasured]
    exact List.cons_ne_nil _ _
  have hwhole : ∀ sample ∈ measured oneSample, sample.IsWhole := by
    rw [hmeasured, List.forall_mem_singleton]
    exact Sample.isWhole_ofInt (by decide) (by decide)
  obtain ⟨b, hb, hfits⟩ := ChartBounds.ofSeries?_of_whole (mt points_eq_nil_iff.1 hsome)
    (whole_points hwhole)
  refine ⟨hsome, hwhole, b, hb, ?_⟩
  rw [hfits.left_lt_right_iff hwhole, hmeasured]
  simp

end Chart

end GraphBoard
