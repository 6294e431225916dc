import GraphBoard.Screen.Grid

namespace GraphBoard.Screen

inductive RowSize where
  | fixed (height : Nat)
  | stretch
  deriving DecidableEq, Repr

def fixedHeights : Nat → List RowSize → List (Option Nat)
  | _, [] => []
  | room, .fixed n :: rest => some (min n room) :: fixedHeights (room - n) rest
  | room, .stretch :: rest => none :: fixedHeights room rest

/-- A boundary at `whole` and a part of a cell, rounded to hundredths and then to a cell. -/
def roundBoundary (whole num den : Nat) : Nat :=
  let hundredths := 100 * whole + (200 * num + den) / (2 * den)
  (hundredths + 50) / 100

/-- Areas one below the other: `fixed` is the height of the fixed rows before, and `shares` the
number of the stretching ones. -/
def placeRows (a : Area) (room count fixed shares : Nat) : List (Option Nat) → List Area
  | [] => []
  | height :: rest =>
    let boundary (fixed shares : Nat) : Nat := roundBoundary (a.y + fixed) (room * shares) count
    let top := boundary fixed shares
    let (fixed, shares) := match height with
      | some n => (fixed + n, shares)
      | none => (fixed, shares + 1)
    ⟨a.x, top, a.width, boundary fixed shares - top⟩ :: placeRows a room count fixed shares rest

def divideRows (a : Area) (sizes : List RowSize) : List Area :=
  let heights := fixedHeights a.height sizes
  let room := a.height - (heights.map (·.getD 0)).foldl (· + ·) 0
  let count := (heights.filter Option.isNone).length
  placeRows a room (max count 1) 0 0 heights

/-- A first row, a middle and a last row. The middle keeps a row before the others have one, and
the first row comes before the last. -/
def titleBodyHelp (a : Area) : Area × Area × Area :=
  let title := min 1 (a.height - 1)
  let help := min 1 (a.height - 1 - title)
  let body := a.height - title - help
  (⟨a.x, a.y, a.width, title⟩, ⟨a.x, a.y + title, a.width, body⟩,
    ⟨a.x, a.y + title + body, a.width, help⟩)

def headerControlsBody (a : Area) : Area × Area × Area :=
  let body := max (min 3 a.height) (a.height - 2)
  let header := min 1 (a.height - body)
  let controls := a.height - body - header
  (⟨a.x, a.y, a.width, header⟩, ⟨a.x, a.y + header, a.width, controls⟩,
    ⟨a.x, a.y + header + controls, a.width, body⟩)

def splitRight (a : Area) (n : Nat) : Area × Area :=
  let right := min n a.width
  (⟨a.x, a.y, a.width - right, a.height⟩, ⟨a.x + (a.width - right), a.y, right, a.height⟩)

end GraphBoard.Screen
