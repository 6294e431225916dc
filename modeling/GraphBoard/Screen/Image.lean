import GraphBoard.Http.Body
import GraphBoard.Number.Binary64
import GraphBoard.Screen.Grid

namespace GraphBoard.Screen

/-- How a terminal shows a picture in an area. What it shows depends on nothing else, above all not
on what it has shown before. -/
abbrev Painter := Picture → Grid → Area → Grid

def cellPixels : Nat × Nat := (8, 16)

def scaleLength (n : Nat) (ratio : Float) : Nat :=
  let exact := Number.ofInt n * ratio
  let whole := exact.toUInt64.toNat
  let rounded := if 0.5 ≤ exact - Number.ofInt whole then whole + 1 else whole
  max rounded 1

/-- The cells, across and down, that a picture takes in an area: made smaller in proportion if it
has to be, and never larger. -/
def pictureCells (p : Picture) (a : Area) : Nat × Nat :=
  let (across, down) := cellPixels
  let share (room n : Nat) : Float := Number.ofInt (min room n) / Number.ofInt n
  let wide := share (a.width * across) p.width
  let high := share (a.height * down) p.height
  let ratio := if high < wide then high else wide
  let cells (n per : Nat) : Nat := (n + per - 1) / per
  (cells (scaleLength p.width ratio) across, cells (scaleLength p.height ratio) down)

/-- A terminal without graphics of its own colours cells, here of eight pixels by sixteen. This is
what becomes of a picture that is all black. Proofs about drawing are about every painter. -/
def paintBlack : Painter := fun p g a =>
  if a.isEmpty then g
  else
    let (width, height) := pictureCells p a
    let unlit := Color.rgb 0 0 0
    g.overArea (a.meet ⟨a.x, a.y, width, height⟩) fun g x y =>
      g.put x y [' '] (.ofColors unlit unlit)

end GraphBoard.Screen
