import GraphBoard.Screen.Grid
import GraphBoard.Text.Width

namespace GraphBoard.Screen

open GraphBoard.Text

structure Span where
  text : List Char
  style : Style
  deriving DecidableEq, Repr

namespace Span

def plain (s : String) : Span := ⟨s.toList, .none⟩

def styled (s : String) (style : Style) : Span := ⟨s.toList, style⟩

def width (s : Span) : Nat := textWidth s.text

def totalWidth (spans : List Span) : Nat := (spans.map width).foldl (· + ·) 0

/-- The symbols of a span. Line breaks have none. -/
def symbols (s : Span) : List (List Char) := (graphemes s.text).filter (· != ['\n'])

end Span

def splitLines (cs : List Char) : List (List Char) :=
  let pieces := cs.splitOn '\n'
  let whole := pieces.dropLast.map fun line =>
    if line.getLast? == some '\r' then line.dropLast else line
  match pieces.getLast? with
  | some [] => whole
  | some last => whole ++ [last]
  | none => whole

def clearBehind (g : Grid) (x y width : Nat) : Grid :=
  (List.range (width - 1)).foldl (fun g i => g.clear (x + 1 + i) y) g

structure Pen where
  grid : Grid
  x : Nat
  first : Bool
  full : Bool

/-- One symbol drawn in an area: one without a width is drawn onto the symbol before it. -/
def Pen.draw (a : Area) (style : Style) (pen : Pen) (symbol : List Char) : Pen :=
  let width := graphemeWidth symbol
  if pen.full || a.right < pen.x + width then { pen with full := true }
  else
    let onto (x : Nat) : Grid :=
      pen.grid.modify x a.y fun cell => ⟨cell.symbol ++ symbol, cell.look.apply style⟩
    let grid :=
      if pen.first then pen.grid.put pen.x a.y symbol style
      else if pen.x == a.x then onto pen.x
      else if width == 0 then onto (pen.x - 1)
      else pen.grid.put pen.x a.y symbol style
    ⟨clearBehind grid pen.x a.y width, pen.x + width, false, false⟩

def drawSpan (g : Grid) (a : Area) (span : Span) : Grid :=
  let a := a.meet g.area
  if a.isEmpty then g
  else (span.symbols.foldl (Pen.draw a span.style) ⟨g, a.x, true, false⟩).grid

def drawSpans (g : Grid) (a : Area) : List Span → Grid
  | [] => g
  | span :: rest =>
    if span.width == 0 then drawSpans g a rest
    else if a.isEmpty then g
    else drawSpans (drawSpan g a span) (a.skip span.width) rest

def drawLabel (g : Grid) (a : Area) (spans : List Span) (style : Style) : Grid :=
  let a := (a.meet g.area).row 0
  if a.isEmpty || Span.totalWidth spans == 0 then g
  else drawSpans (g.restyle a style) a spans

def labelSpans (s : String) (style : Style) : List Span :=
  (splitLines s.toList).map (⟨·, style⟩)

/-- A text of at most `limit` columns drawn in the style that is there, and the column after it.
Controls and symbols without a width are left out, and only the edge of the screen cuts it off. -/
def drawTicker (g : Grid) (x y limit : Nat) (s : String) : Grid × Nat :=
  let symbols := (graphemes s.toList).filter fun symbol =>
    !symbol.any isControl && graphemeWidth symbol != 0
  go g x (min (g.width - x) limit) symbols
where
  isControl (c : Char) : Bool := c.toNat < 0x20 || (0x7F ≤ c.toNat && c.toNat < 0xA0)
  go (g : Grid) (x room : Nat) : List (List Char) → Grid × Nat
    | [] => (g, x)
    | symbol :: rest =>
      let width := graphemeWidth symbol
      if room < width then (g, x)
      else go (clearBehind (g.put x y symbol .none) x y width) (x + width) (room - width) rest

end GraphBoard.Screen
