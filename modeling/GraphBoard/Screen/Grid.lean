import GraphBoard.Screen.Look

namespace GraphBoard.Screen

structure Area where
  x : Nat
  y : Nat
  width : Nat
  height : Nat
  deriving DecidableEq, Repr

namespace Area

def right (a : Area) : Nat := a.x + a.width
def bottom (a : Area) : Nat := a.y + a.height
def isEmpty (a : Area) : Bool := a.width == 0 || a.height == 0

def row (a : Area) (i : Nat) : Area := ⟨a.x, a.y + i, a.width, min 1 (a.height - i)⟩

def meet (a b : Area) : Area :=
  let x := max a.x b.x
  let y := max a.y b.y
  ⟨x, y, min a.right b.right - x, min a.bottom b.bottom - y⟩

def skip (a : Area) (n : Nat) : Area := ⟨min (a.x + n) a.right, a.y, a.width - n, a.height⟩

def inside (a : Area) : Area :=
  ⟨min (a.x + 1) a.right, min (a.y + 1) a.bottom, a.width - 2, a.height - 2⟩

end Area

structure Cell where
  symbol : List Char
  look : Look
  deriving DecidableEq, Repr

def Cell.blank : Cell := ⟨[' '], .plain⟩

structure Grid where
  width : Nat
  height : Nat
  cells : Array Cell
  deriving DecidableEq, Repr

namespace Grid

def blank (width height : Nat) : Grid := ⟨width, height, Array.replicate (width * height) .blank⟩

def area (g : Grid) : Area := ⟨0, 0, g.width, g.height⟩

/-- A grid with one cell changed. What is not on the grid is lost. -/
def modify (g : Grid) (x y : Nat) (f : Cell → Cell) : Grid :=
  if x < g.width ∧ y < g.height then { g with cells := g.cells.modify (y * g.width + x) f } else g

def cell (g : Grid) (x y : Nat) : Cell := (g.cells[y * g.width + x]?).getD .blank

def put (g : Grid) (x y : Nat) (symbol : List Char) (style : Style) : Grid :=
  g.modify x y fun cell => ⟨symbol, cell.look.apply style⟩

def clear (g : Grid) (x y : Nat) : Grid := g.modify x y fun _ => .blank

def overArea (g : Grid) (a : Area) (f : Grid → Nat → Nat → Grid) : Grid :=
  let a := a.meet g.area
  (List.range a.height).foldl (fun g j =>
    (List.range a.width).foldl (fun g i => f g (a.x + i) (a.y + j)) g) g

def restyle (g : Grid) (a : Area) (style : Style) : Grid :=
  g.overArea a fun g x y => g.modify x y fun cell => { cell with look := cell.look.apply style }

def row (g : Grid) (y : Nat) : List Cell := (List.range g.width).map (g.cell · y)

def rows (g : Grid) : List (List Cell) := (List.range g.height).map g.row

end Grid

end GraphBoard.Screen
