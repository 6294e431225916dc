import GraphBoard.Screen.Label

namespace GraphBoard.Screen

def fill (g : Grid) (a : Area) (symbol : Char) (style : Style) : Grid :=
  g.overArea a fun g x y => g.put x y [symbol] style

/-- The frame of an area. Corners count more than sides. -/
def drawFrame (g : Grid) (a : Area) (style : Style) : Grid :=
  let a := a.meet g.area
  if a.isEmpty then g
  else
    let last (n : Nat) : Nat := n - 1
    let g := fill g ⟨a.x, a.y, 1, a.height⟩ '│' style
    let g := fill g ⟨a.x, a.y, a.width, 1⟩ '─' style
    let g := fill g ⟨last a.right, a.y, 1, a.height⟩ '│' style
    let g := fill g ⟨a.x, last a.bottom, a.width, 1⟩ '─' style
    let g := g.put (last a.right) (last a.bottom) ['┘'] style
    let g := g.put (last a.right) a.y ['┐'] style
    let g := g.put a.x (last a.bottom) ['└'] style
    g.put a.x a.y ['┌'] style

def drawTitledFrame (g : Grid) (a : Area) (style : Style) (title : String) : Grid :=
  let a := a.meet g.area
  if a.isEmpty then g
  else
    let spans := labelSpans title .none
    let width := min (Span.totalWidth spans) (a.width - 2)
    drawLabel (drawFrame g a style) ⟨a.x + 1, a.y, width, 1⟩ spans .none

end GraphBoard.Screen
