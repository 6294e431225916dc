import GraphBoard.Screen.Dots
import GraphBoard.Screen.Frame
import GraphBoard.Series.Chart

namespace GraphBoard.Screen

def curveColors : List Color := [.cyan, .yellow, .magenta, .green, .lightRed, .lightBlue]

def curveColor (i : Nat) : Color := curveColors.getD (i % curveColors.length) .reset

def dotOf? (b : ChartBounds) (columns rows : Nat) (p : ChartPoint) : Option (Nat × Nat) :=
  let width := (b.right - b.left).abs
  let height := (b.high - b.low).abs
  if p.x < b.left || b.right < p.x || p.y < b.low || b.high < p.y then none
  else if width == 0.0 || height == 0.0 then none
  else
    let scale (distance span : Float) (count : Nat) : Nat :=
      (distance * (Number.ofInt count - 1.0) / span).toUInt64.toNat
    some (scale (p.x - b.left) width columns, scale (b.high - p.y) height rows)

def curve (b : ChartBounds) (width height : Nat) (points : List ChartPoint) : Dots :=
  let dots := points.map (dotOf? b (2 * width) (4 * height))
  let d := (dots.filterMap id).foldl (fun d (x, y) => d.set x y) (Dots.blank width height)
  (dots.zip dots.tail).foldl (fun d pair =>
    match pair with
    | (some (x₁, y₁), some (x₂, y₂)) => d.line x₁ y₁ x₂ y₂
    | _ => d) d

/-- The columns that labels get: at most a third of all. -/
def labelWidth (labels : List String) (width : Nat) : Nat :=
  min ((labels.map (textWidthOf ·)).foldl max 0) (width / 3)
where
  textWidthOf (s : String) : Nat := Text.textWidth s.toList

def quarter (n : Nat) : Nat := (n + 2) / 4

def nameWidth (s : Series) : Nat := Span.totalWidth (labelSpans s.target .none)

/-- The place of the legend, if it takes no more than a quarter of the area of the curves either
way. -/
def legendArea? (series : List Series) (a : Area) : Option Area :=
  let inner := (series.map nameWidth).foldl max 0
  let width := inner + 2
  let height := series.length + 2
  if inner != 0 && width ≤ quarter a.width && height ≤ quarter a.height then
    some ⟨a.right - width, a.y, width, height⟩
  else none

def drawNames (g : Grid) (a : Area) : Nat → List Series → Grid
  | _, [] => g
  | i, s :: rest =>
    let style := Style.ofFg (curveColor i)
    drawNames (drawLabel g (a.row i) (labelSpans s.target .none) style) a (i + 1) rest

def drawCurves (b : ChartBounds) (g : Grid) (a : Area) : Nat → List Series → Grid
  | _, [] => g
  | i, s :: rest =>
    drawCurves b ((curve b a.width a.height s.points).draw g a (curveColor i)) a (i + 1) rest

def drawLabels (labels : List String) (g : Grid) (a curves : Area) : Grid :=
  let width := curves.x - a.x - 1
  labels.zipIdx.foldl (fun g (label, i) =>
    let up := i * (curves.height - 1) / (labels.length - 1)
    drawLabel g ⟨a.x, curves.bottom - 1 - up, width, 1⟩ (labelSpans label .none) .none) g

def drawChart (b : ChartBounds) (series : List Series) (g : Grid) (a : Area) : Grid :=
  if a.isEmpty then g
  else
    let left := labelWidth b.labels a.width
    let hasLine := left + 1 < a.width
    let curves := a.skip (if hasLine then left + 1 else left)
    let corner := (g.cell a.x a.y).look
    let g := drawLabels b.labels g a curves
    let g := if hasLine then fill g ⟨a.x + left, a.y, 1, a.height⟩ '│' (.ofFg .darkGray) else g
    let g := drawCurves b g curves 0 series
    match legendArea? series curves with
    | some legend =>
      let g := drawFrame (g.restyle legend corner.toStyle) legend .none
      drawNames g legend.inside 0 series
    | none => g

end GraphBoard.Screen
