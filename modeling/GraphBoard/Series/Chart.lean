import GraphBoard.Series.Basic

namespace GraphBoard

structure ChartPoint where
  x : Float
  y : Float
  deriving Repr

structure ChartBounds where
  left : Float
  right : Float
  low : Float
  high : Float
  deriving Repr

def Series.points (series : Series) : List ChartPoint :=
  series.samples.filterMap fun sample =>
    sample.value.map fun value => ⟨Number.ofInt sample.time, value⟩

namespace ChartBounds

def greatest : Float := Float.ofBits 0x7FEFFFFFFFFFFFFF
def least : Float := Float.ofBits 0xFFEFFFFFFFFFFFFF

def epsilon : Float := Float.ofBits 0x3CB0000000000000

def empty : ChartBounds := ⟨greatest, least, greatest, least⟩

def add (b : ChartBounds) (p : ChartPoint) : ChartBounds :=
  { left := if p.x < b.left then p.x else b.left
    right := if b.right < p.x then p.x else b.right
    low := if p.y < b.low then p.y else b.low
    high := if b.high < p.y then p.y else b.high }

/-- The bounds of all series; none when there is no point. A flat line gets room above it. -/
def ofSeries? (series : List Series) : Option ChartBounds :=
  let b := (series.flatMap Series.points).foldl add empty
  if b.right < b.left then none
  else if b.high - b.low < epsilon then some { b with high := b.low + 1.0 }
  else some b

def labels (b : ChartBounds) : List String :=
  [b.low, (b.low + b.high) / 2.0, b.high].map Number.fixedOne

end ChartBounds

end GraphBoard
