import GraphBoard.Screen.Grid

namespace GraphBoard.Screen

/-- The dots on the cells of an area, row by row; the dots of a cell are the bits of a number. -/
structure Dots where
  width : Nat
  height : Nat
  bits : Array Nat
  deriving Repr

namespace Dots

def blank (width height : Nat) : Dots := ⟨width, height, Array.replicate (width * height) 0⟩

def bit (column row : Nat) : Nat :=
  if column == 0 then [0x01, 0x02, 0x04, 0x40].getD row 0
  else [0x08, 0x10, 0x20, 0x80].getD row 0

def set (d : Dots) (x y : Nat) : Dots :=
  { d with bits := d.bits.modify (y / 4 * d.width + x / 2) (· ||| bit (x % 2) (y % 4)) }

def shallow (dx dy : Int) (toY : Nat) : Nat → Dots → Int → Nat → Nat → Dots
  | 0, d, _, _, _ => d
  | n + 1, d, slack, x, y =>
    let d := d.set x y
    let steps := 0 < slack
    let slack := (if steps then slack - 2 * dx else slack) + 2 * dy
    shallow dx dy toY n d slack (x + 1) (if steps then if toY < y then y - 1 else y + 1 else y)

def steep (dx dy : Int) (toX : Nat) : Nat → Dots → Int → Nat → Nat → Dots
  | 0, d, _, _, _ => d
  | n + 1, d, slack, x, y =>
    let d := d.set x y
    let steps := 0 < slack
    let slack := (if steps then slack - 2 * dy else slack) + 2 * dx
    steep dx dy toX n d slack (if steps then if toX < x then x - 1 else x + 1 else x) (y + 1)

def line (d : Dots) (x₁ y₁ x₂ y₂ : Nat) : Dots :=
  let distance (a b : Nat) : Nat := if a ≤ b then b - a else a - b
  let dx := distance x₁ x₂
  let dy := distance y₁ y₂
  if dx == 0 then (List.range (dy + 1)).foldl (fun d i => d.set x₁ (min y₁ y₂ + i)) d
  else if dy == 0 then (List.range (dx + 1)).foldl (fun d i => d.set (min x₁ x₂ + i) y₁) d
  else if dy < dx then
    let slack : Int := 2 * dy - dx
    if x₂ < x₁ then low d slack dx dy x₂ y₂ y₁ else low d slack dx dy x₁ y₁ y₂
  else
    let slack : Int := 2 * dx - dy
    if y₂ < y₁ then high d slack dx dy x₂ y₂ x₁ else high d slack dx dy x₁ y₁ x₂
where
  low (d : Dots) (slack : Int) (dx dy x y toY : Nat) : Dots :=
    shallow dx dy toY (dx + 1) d slack x y
  high (d : Dots) (slack : Int) (dx dy x y toX : Nat) : Dots :=
    steep dx dy toX (dy + 1) d slack x y

def draw (d : Dots) (g : Grid) (a : Area) (color : Color) : Grid :=
  g.overArea a fun g x y =>
    match d.bits[(y - a.y) * d.width + (x - a.x)]? with
    | some bits =>
      if bits == 0 then g else g.put x y [Char.ofNat (0x2800 + bits)] (.ofFg color)
    | none => g

end Dots

end GraphBoard.Screen
